import NdnMps.Data.Run
import NdnMps.Signer

/-! The signer as it serves any number of requests, whose events come in any order. -/

namespace NdnMps

variable {SecretKey PublicKey Signature : Type}

/-- A request that has been accepted. -/
structure SignRequest where
  state : SignRequestState
  /-- The fetch of the parameter packet, until it ends: the Interest that is pending at the face, or
  the exception that kept it from being sent. -/
  fetch : Option (Except Fault Interest)

/-- The Interest for the parameter packet, while it is pending at the face. -/
def SignRequest.pending (request : SignRequest) : Option Interest :=
  request.fetch.bind Except.toOption

/-- A fetch that is pending has not ended. -/
theorem SignRequest.isSome_fetch {request : SignRequest}
    (pending : request.pending.isSome = true) : request.fetch.isSome = true :=
  Option.isSome_of_isSome_bind pending

/-- The HMAC keys in a signer's TPM, and its requests in the order in which they were accepted. -/
structure SignerState where
  tpm : List Buffer
  requests : List SignRequest

/-- What may happen to a signer. -/
inductive SignerEvent where
  | signRequest (interest : Interest) (draw : RequestDraw)
  /-- A Data packet satisfies the Interest for the parameter packet of a request. -/
  | parameterData (request : Nat) (data : Data)
  | parameterNack (request : Nat)
  | parameterTimeout (request : Nat)
  /-- An Interest arrives under the result prefix of a request. -/
  | resultInterest (request : Nat) (interest : Interest) (random : Buffer)

/-- What a signer puts on its face. -/
inductive SignerOutput where
  | ack (data : Data)
  | fetch (interest : Interest)
  /-- The reply to a result Interest of a request. -/
  | result (request : Nat) (data : Data)

namespace SignerState

/-- The signer's state with one request in another state. -/
def setRequest (signerState : SignerState) (index : Nat) (request : SignRequest) : SignerState :=
  { signerState with requests := signerState.requests.set index request }

end SignerState

namespace BLSSigner

variable (libs : Libraries SecretKey PublicKey Signature) (signer : BLSSigner SecretKey)

/-- A NACK or a timeout of the Interest for the parameter packet of a request. -/
def failFetch (signerState : SignerState) (index : Nat) :
    Option (SignerState × List SignerOutput) := do
  let request ← signerState.requests[index]?
  if request.pending.isSome then
    some (signerState.setRequest index ⟨onParameterFailure request.state, none⟩, [])
  else none

/-- One step of the signer with what it puts on the face, as long as its behaviour is defined. -/
def step (signerState : SignerState) :
    SignerEvent → Option (SignerState × List SignerOutput)
  | .signRequest interest draw =>
    match signer.onSignRequest libs interest draw with
    | .error .undefined => none
    -- The exception of the key agreement leaves the callback before anything has been done.
    | .error .exception => some (signerState, [])
    | .ok (.inl ack) => some (signerState, [.ack ack])
    | .ok (.inr accepted) =>
      some ({ signerState with
        requests := signerState.requests ++ [⟨accepted.state, some accepted.fetch⟩] },
        .ack accepted.ack :: accepted.fetch.toOption.toList.map .fetch)
  | .parameterData index data => do
    let request ← signerState.requests[index]?
    let pending ← request.pending
    if pending.matchesData data then
      match signer.onParameterData libs signerState.tpm request.state data with
      | .error _ => none
      | .ok state => some (signerState.setRequest index ⟨state, none⟩, [])
    else none
  | .parameterNack index => failFetch signerState index
  | .parameterTimeout index => failFetch signerState index
  | .resultInterest index interest random => do
    let request ← signerState.requests[index]?
    if request.state.resultPrefixRegistered &&
        request.state.resultPrefix.isPrefixOf interest.name then
      match signer.onResultInterest libs signerState.tpm request.state interest random with
      | none => some (signerState, [])
      | some answered =>
        some ({ signerState.setRequest index ⟨answered.state, request.fetch⟩ with
          tpm := answered.tpm }, [.result index answered.result])
    else none

/-- What the parameter packet makes of a request. -/
inductive Fetched (tpm : List Buffer) (state : SignRequestState) (data : Data) :
    SignRequestState → Prop where
  /-- The HMAC does not verify. -/
  | unverified : Fetched tpm state data state
  /-- The packet is not read, or the application does not approve of it. -/
  | rejected {code : ReplyCode} (other : code ≠ .ok) : Fetched tpm state data { state with code }
  /-- The application approves of the packet, which is signed. -/
  | approved {unsigned : Data}
      (verified : libs.keyChain.verifySignature tpm state.hmacKey data = true)
      (decrypted : parseParameterData libs.tlv libs.ssl state.aesKey data = .ok unsigned)
      (approves : signer.verifyToBeSigned unsigned = true) :
      Fetched tpm state data { state with
        code := .ok
        signatureValue := libs.bls.ndnGenBLSSignature libs.tlv signer.secretKey unsigned }

/-- What an event can make of a signer, and what the signer can put on its face then. -/
inductive Step (signerState : SignerState) :
    SignerEvent → SignerState → List SignerOutput → Prop where
  | refused {interest : Interest} {draw : RequestDraw} {outputs : List SignerOutput}
      (silent : ∀ index data, .result index data ∉ outputs) :
      Step signerState (.signRequest interest draw) signerState outputs
  | accepted {interest : Interest} {draw : RequestDraw} {accepted : Accepted}
      (accepts : signer.onSignRequest libs interest draw = .ok (.inr accepted)) :
      Step signerState (.signRequest interest draw)
        { signerState with
          requests := signerState.requests ++ [⟨accepted.state, some accepted.fetch⟩] }
        (.ack accepted.ack :: accepted.fetch.toOption.toList.map .fetch)
  | fetched {index : Nat} {data : Data} {request : SignRequest} {state : SignRequestState}
      (found : signerState.requests[index]? = some request)
      (fetched : Fetched libs signer signerState.tpm request.state data state) :
      Step signerState (.parameterData index data) (signerState.setRequest index ⟨state, none⟩) []
  /-- The parameter packet is not there. -/
  | failed {event : SignerEvent} {index : Nat} {request : SignRequest}
      (found : signerState.requests[index]? = some request) :
      Step signerState event
        (signerState.setRequest index ⟨onParameterFailure request.state, none⟩) []
  | ignored {index : Nat} {interest : Interest} {random : Buffer} :
      Step signerState (.resultInterest index interest random) signerState []
  | answered {index : Nat} {interest : Interest} {random : Buffer} {request : SignRequest}
      (found : signerState.requests[index]? = some request) :
      Step signerState (.resultInterest index interest random)
        { signerState.setRequest index
            ⟨(generateResultData libs.tlv libs.ssl interest.name request.state random).2,
              request.fetch⟩ with
          tpm := signerState.tpm.insert request.state.hmacKey }
        [.result index (libs.keyChain.signWithHmac request.state.hmacKey
          (generateResultData libs.tlv libs.ssl interest.name request.state random).1)]

variable {libs signer}

/-- The callback for the parameter packet leaves a request as it was where the HMAC does not verify.
Else it sets another reply code, that of success where the application approves of the packet. -/
theorem onParameterData_cases {tpm : List Buffer} {state after : SignRequestState} {data : Data}
    (handled : signer.onParameterData libs tpm state data = .ok after) :
    (libs.keyChain.verifySignature tpm state.hmacKey data = false ∧ after = state) ∨
      (libs.keyChain.verifySignature tpm state.hmacKey data = true ∧
        ((∃ code, code ≠ .ok ∧ code ≠ .processing ∧ after = { state with code }) ∨
          ∃ unsigned, parseParameterData libs.tlv libs.ssl state.aesKey data = .ok unsigned ∧
            signer.verifyToBeSigned unsigned = true ∧
            after = { state with
              code := .ok
              signatureValue :=
                libs.bls.ndnGenBLSSignature libs.tlv signer.secretKey unsigned })) := by
  -- The three checks of the code in their order: the HMAC, the decryption, the approval.
  unfold onParameterData at handled
  cases verified : libs.keyChain.verifySignature tpm state.hmacKey data with
  | false =>
    simp only [verified, Bool.not_false, if_true, Except.ok.injEq] at handled
    exact .inl ⟨rfl, handled.symm⟩
  | true =>
    refine .inr ⟨rfl, ?_⟩
    simp only [verified, Bool.not_true, Bool.false_eq_true, if_false] at handled
    cases decrypted : parseParameterData libs.tlv libs.ssl state.aesKey data with
    | error fault =>
      cases fault with
      | undefined => simp [decrypted] at handled
      | exception =>
        simp only [decrypted, Except.ok.injEq] at handled
        exact .inl ⟨.failedDependency, by decide, by decide, handled.symm⟩
    | ok unsigned =>
      simp only [decrypted] at handled
      cases approves : signer.verifyToBeSigned unsigned with
      | false =>
        simp only [approves, Bool.not_false, if_true, Except.ok.injEq] at handled
        exact .inl ⟨.unauthorized, by decide, by decide, handled.symm⟩
      | true =>
        simp only [approves, Bool.not_true, Bool.false_eq_true, if_false,
          Except.ok.injEq] at handled
        exact .inr ⟨unsigned, rfl, approves, handled.symm⟩

/-- The callback for the parameter packet changes a request in one of these ways. -/
theorem onParameterData_fetched {tpm : List Buffer} {state after : SignRequestState} {data : Data}
    (handled : signer.onParameterData libs tpm state data = .ok after) :
    Fetched libs signer tpm state data after := by
  rcases onParameterData_cases handled with
    ⟨-, same⟩ | ⟨verified, ⟨code, other, -, same⟩ | ⟨unsigned, decrypted, approves, same⟩⟩
  · exact same ▸ .unverified
  · exact same ▸ .rejected other
  · exact same ▸ .approved verified decrypted approves

/-- A parameter packet is handed to the callback of the request whose Interest it satisfies. -/
theorem step_parameterData {signerState after : SignerState} {index : Nat} {data : Data}
    {outputs : List SignerOutput}
    (stepped : signer.step libs signerState (.parameterData index data) = some (after, outputs)) :
    ∃ request state, signerState.requests[index]? = some request ∧
      request.pending.isSome = true ∧
      signer.onParameterData libs signerState.tpm request.state data = .ok state ∧
      after = signerState.setRequest index ⟨state, none⟩ ∧ outputs = [] := by
  obtain ⟨request, found, stepped⟩ := Option.bind_eq_some_iff.mp stepped
  obtain ⟨pending, waits, stepped⟩ := Option.bind_eq_some_iff.mp stepped
  -- The packet has to satisfy the pending Interest, and the callback must not throw.
  split at stepped
  · split at stepped
    · cases stepped
    · rename_i state handled
      cases stepped
      exact ⟨request, state, found, by rw [waits]; rfl, handled, rfl, rfl⟩
  · cases stepped

/-- A reply counts the version up while the signer is processing, and else it is the last one. -/
theorem generateResultData_state {tlv : Tlv} {ssl : Openssl} (interestName : Name)
    (state : SignRequestState) (random : Buffer) :
    (generateResultData tlv ssl interestName state random).2 = { state with
      version := if state.code = .processing then (state.version + 1) % 2 ^ 64 else state.version
      resultPrefixRegistered := decide (state.code = .processing) &&
        state.resultPrefixRegistered } := by
  obtain ⟨ecdh, aesKey, code, signatureValue, version, resultPrefix, registered, hmacKey⟩ := state
  cases code <;> simp [generateResultData]

/-- An answer to a result Interest is signed with the request's own key, which the TPM holds
then. -/
theorem onResultInterest_eq {tpm : List Buffer} {state : SignRequestState} {interest : Interest}
    {random : Buffer} {answered : Answered}
    (answer : signer.onResultInterest libs tpm state interest random = some answered) :
    answered = ⟨libs.keyChain.signWithHmac state.hmacKey
        (generateResultData libs.tlv libs.ssl interest.name state random).1,
      (generateResultData libs.tlv libs.ssl interest.name state random).2,
      tpm.insert state.hmacKey⟩ := by
  have own : (generateResultData libs.tlv libs.ssl interest.name state random).2.hmacKey =
      state.hmacKey := by rw [generateResultData_state]
  -- Only a name of the wrong length gets no answer.
  unfold onResultInterest at answer
  split at answer
  · cases answer
  · -- The pair is named, so that its parts stay as they are.
    generalize generateResultData libs.tlv libs.ssl interest.name state random = pair at *
    obtain ⟨result, after⟩ := pair
    simp only [Option.some.injEq] at answer own
    rw [← answer, own]

/-- Every step is one of these. -/
theorem step_cases {signerState after : SignerState} {event : SignerEvent}
    {outputs : List SignerOutput}
    (stepped : signer.step libs signerState event = some (after, outputs)) :
    Step libs signer signerState event after outputs := by
  -- A NACK and a timeout have the same callback.
  have lost : ∀ {index : Nat}, failFetch signerState index = some (after, outputs) →
      Step libs signer signerState event after outputs := by
    intro index failed
    obtain ⟨request, found, failed⟩ := Option.bind_eq_some_iff.mp failed
    split at failed
    · cases failed
      exact .failed found
    · cases failed
  -- The branches that the code leaves without a step are closed by `cases`.
  cases event with
  | signRequest interest draw =>
    simp only [step] at stepped
    split at stepped
    · cases stepped
    · cases stepped
      exact .refused (by simp)
    · cases stepped
      exact .refused (by simp)
    · cases stepped
      exact .accepted ‹_›
  | parameterData index data =>
    obtain ⟨request, state, found, -, handled, same, silent⟩ := step_parameterData stepped
    subst same silent
    exact .fetched found (onParameterData_fetched handled)
  | parameterNack index => exact lost stepped
  | parameterTimeout index => exact lost stepped
  | resultInterest index interest random =>
    obtain ⟨request, found, stepped⟩ := Option.bind_eq_some_iff.mp stepped
    split at stepped
    · cases answer : signer.onResultInterest libs signerState.tpm request.state interest random with
      | none =>
        simp only [answer, Option.some.injEq] at stepped
        cases stepped
        exact .ignored
      | some answered =>
        simp only [answer, Option.some.injEq] at stepped
        rw [onResultInterest_eq answer] at stepped
        cases stepped
        exact .answered found
    · cases stepped

/-- A request that is accepted has passed both checks, and it is in progress. -/
theorem onSignRequest_accepted {interest : Interest} {draw : RequestDraw} {accepted : Accepted}
    (accepts : signer.onSignRequest libs interest draw = .ok (.inr accepted)) :
    signer.verifySignRequest interest = true ∧
      libs.keyChain.isParametersDigestValid interest = true ∧
      accepted.state.code = .processing ∧ accepted.state.version = 0 := by
  unfold onSignRequest at accepts
  -- Without both checks the signer only refuses.
  split at accepts
  · cases accepts
  · rename_i checked
    rw [Bool.or_eq_true, not_or, Bool.not_eq_true', Bool.not_eq_true', Bool.not_eq_false,
      Bool.not_eq_false] at checked
    simp only [Bind.bind, Except.bind] at accepts
    repeat' split at accepts
    all_goals first
      | cases accepts; done
      | cases accepts; exact ⟨checked.1, checked.2, rfl, rfl⟩

/-- What never changes about a request. -/
structure SameRequest (state other : SignRequestState) : Prop where
  aesKey : other.aesKey = state.aesKey
  hmacKey : other.hmacKey = state.hmacKey
  resultPrefix : other.resultPrefix = state.resultPrefix

/-- The parameter packet leaves a request with its keys and its version. -/
theorem Fetched.same {tpm : List Buffer} {state after : SignRequestState} {data : Data}
    (fetched : Fetched libs signer tpm state data after) :
    SameRequest state after ∧ after.version = state.version := by
  cases fetched <;> exact ⟨⟨rfl, rfl, rfl⟩, rfl⟩

/-- A reply leaves a request with its keys. -/
theorem same_generateResultData (tlv : Tlv) (ssl : Openssl) (interestName : Name)
    (state : SignRequestState) (random : Buffer) :
    SameRequest state (generateResultData tlv ssl interestName state random).2 := by
  rw [generateResultData_state]
  exact ⟨rfl, rfl, rfl⟩

/-- A request stays where it is when one request changes. -/
theorem getElem?_setRequest {signerState : SignerState} {index : Nat}
    {request other : SignRequest} (found : signerState.requests[index]? = some request)
    (place : Nat) :
    (signerState.setRequest index other).requests[place]? =
      if place = index then some other else signerState.requests[place]? := by
  by_cases same : place = index
  · rw [if_pos same, same]
    exact List.getElem?_set_self (List.getElem?_eq_some_iff.mp found).1
  · rw [if_neg same]
    exact List.getElem?_set_ne (Ne.symm same)

/-- No step takes a request away or changes its keys. -/
theorem Step.keeps {signerState after : SignerState} {event : SignerEvent}
    {outputs : List SignerOutput} (step : Step libs signer signerState event after outputs)
    {place : Nat} {request : SignRequest} (there : signerState.requests[place]? = some request) :
    ∃ other, after.requests[place]? = some other ∧ SameRequest request.state other.state := by
  have itself : SameRequest request.state request.state := ⟨rfl, rfl, rfl⟩
  -- Where one request is set, it is this one or another one.
  have set : ∀ {index : Nat} {changed other : SignRequest},
      signerState.requests[index]? = some changed → SameRequest changed.state other.state →
      ∃ left, (signerState.setRequest index other).requests[place]? = some left ∧
        SameRequest request.state left.state := by
    intro index changed other found same
    rw [getElem?_setRequest found]
    by_cases here : place = index
    · rw [here, found] at there
      cases there
      exact ⟨other, if_pos here, same⟩
    · exact ⟨request, (if_neg here).trans there, itself⟩
  cases step with
  | refused | ignored => exact ⟨request, there, itself⟩
  | accepted =>
    exact ⟨request, (List.getElem?_append_left
      (List.getElem?_eq_some_iff.mp there).1).trans there, itself⟩
  | fetched found fetched => exact set found fetched.same.1
  | failed found => exact set found ⟨rfl, rfl, rfl⟩
  | @answered index interest random changed found =>
    have same := same_generateResultData libs.tlv libs.ssl interest.name changed.state random
    exact set found
      (show SameRequest changed.state (SignRequest.mk _ changed.fetch).state from same)

end BLSSigner

end NdnMps
