import NdnMps.Signer.Requests
import NdnMps.System.Agreement

/-! A signer signs only what it has been asked for and approves of, whatever else happens to it. -/

namespace NdnMps

variable {SecretKey PublicKey Signature : Type}

/-- The elements of a result's payload. -/
def resultElements (tlv : Tlv) (state : SignRequestState) : List Block :=
  match state.code with
  | .processing =>
    [⟨Tlv.status, state.code.text⟩, ⟨Tlv.resultAfter, tlv.encodeNumber estimateProcessTime⟩,
      tlv.nestedName Tlv.resultName
        (state.resultPrefix.append (tlv.fromVersion ((state.version + 1) % 2 ^ 64)))]
  | .ok => [⟨Tlv.status, state.code.text⟩, ⟨Tlv.blsSigValue, state.signatureValue⟩]
  | _ => [⟨Tlv.status, state.code.text⟩]

/-- Every payload starts with the status. -/
theorem exists_resultElements (tlv : Tlv) (state : SignRequestState) :
    ∃ rest, resultElements tlv state = ⟨Tlv.status, state.code.text⟩ :: rest := by
  unfold resultElements
  cases state.code <;> exact ⟨_, rfl⟩

section Results

variable {libs : Libraries SecretKey PublicKey Signature}

/-- Whoever has the AES key reads the elements of a result. -/
theorem parseResultData_generateResultData (lossless : libs.tlv.Lossless)
    (matching : libs.ssl.Matching) (interestName : Name) (state : SignRequestState)
    (random hmacKey : Buffer) :
    parseResultData libs.tlv libs.ssl state.aesKey (libs.keyChain.signWithHmac hmacKey
      (generateResultData libs.tlv libs.ssl interestName state random).1) =
        .ok (resultElements libs.tlv state) := by
  apply parseResultData_encrypted lossless matching state.aesKey random
  cases code : state.code <;> simp only [generateResultData, resultElements, code] <;> rfl

/-- Only the payload of a final result has a signature, and it is the request's one. -/
theorem getBlock_blsSigValue {tlv : Tlv} {state : SignRequestState} {block : Block}
    (carried : getBlock (resultElements tlv state) Tlv.blsSigValue = .ok block) :
    state.code = .ok ∧ block.value = state.signatureValue := by
  -- The elements of each reply code are looked through for the signature.
  cases code : state.code with
  | ok =>
    simp only [resultElements, code] at carried
    rw [getBlock_pass (by decide), getBlock_front, Except.ok.injEq] at carried
    exact ⟨rfl, congrArg Block.value carried.symm⟩
  | processing =>
    simp only [resultElements, code] at carried
    rw [getBlock_pass (by decide), getBlock_pass (by decide), Tlv.nestedName, Tlv.nested,
      getBlock_pass (by decide)] at carried
    cases carried
  | _ =>
    simp only [resultElements, code] at carried
    rw [getBlock_pass (by decide)] at carried
    cases carried

/-- A reply that the signer is processing names the next version, and no other reply does. -/
theorem nextNameOf_generateResultData (lossless : libs.tlv.Lossless)
    (matching : libs.ssl.Matching) (interestName : Name) (state : SignRequestState)
    (random hmacKey : Buffer) :
    nextNameOf libs.tlv libs.ssl state.aesKey (libs.keyChain.signWithHmac hmacKey
      (generateResultData libs.tlv libs.ssl interestName state random).1) =
        if state.code = .processing then
          some (state.resultPrefix.append (libs.tlv.fromVersion ((state.version + 1) % 2 ^ 64)))
        else none := by
  have parsed := parseResultData_generateResultData lossless matching interestName state random
    hmacKey
  unfold nextNameOf
  rw [parsed]
  -- Only a reply in progress has the status for which the name is read.
  by_cases processing : state.code = .processing
  · have status : (ReplyCode.processing.text = asciiBytes "102") = True := by decide +kernel
    simp (disch := decide) only [resultElements, processing, Tlv.nestedName, Tlv.nested,
      getBlock_front, getBlock_pass, status, lossless.blockFromValue_encode,
      lossless.nameOf_encodeName, if_true, Except.toOption, Bind.bind, Option.bind_some]
  · have other : state.code.text ≠ asciiBytes "102" := by
      revert processing
      cases state.code <;> decide +kernel
    obtain ⟨rest, front⟩ := exists_resultElements libs.tlv state
    simp only [front, getBlock_front, other, processing, if_false, Except.toOption, Bind.bind,
      Option.bind_some]

end Results

namespace BLSSigner

/-- A run of a signer with what has happened in it. -/
abbrev RecordedSigner := Recorded SignerState SignerEvent SignerOutput

section Statements

variable (libs : Libraries SecretKey PublicKey Signature) (signer : BLSSigner SecretKey)

/-- The Interest of a request has passed the application's check and the check of its digest. -/
def Requested (past : List SignerEvent) (state : SignRequestState) : Prop :=
  ∃ interest draw accepted, .signRequest interest draw ∈ past ∧
    signer.verifySignRequest interest = true ∧
    libs.keyChain.isParametersDigestValid interest = true ∧
    signer.onSignRequest libs interest draw = .ok (.inr accepted) ∧
    SameRequest accepted.state state

/-- A parameter packet of a request has verified under the request's own key when it came, and it
decrypts to a packet that the application approves of. -/
def Approved (start : SignerState) (past : List SignerEvent) (index : Nat)
    (state : SignRequestState) (unsigned : Data) : Prop :=
  ∃ earlier para later before, past = earlier ++ .parameterData index para :: later ∧
    Run.after (Recorded.next (signer.step libs)) earlier (.start start) = some before ∧
    libs.keyChain.verifySignature before.state.tpm state.hmacKey para = true ∧
    parseParameterData libs.tlv libs.ssl state.aesKey para = .ok unsigned ∧
    signer.verifyToBeSigned unsigned = true

/-- A reply to a request can be read with its key, and it has no signature but the one of a packet
that was asked for and approved of. -/
def Justified (start : SignerState) (recorded : RecordedSigner) (index : Nat) (result : Data) :
    Prop :=
  ∃ request blocks, recorded.state.requests[index]? = some request ∧
    parseResultData libs.tlv libs.ssl request.state.aesKey result = .ok blocks ∧
    ∀ block, getBlock blocks Tlv.blsSigValue = .ok block →
      signer.Requested libs recorded.past request.state ∧
      ∃ unsigned, signer.Approved libs start recorded.past index request.state unsigned ∧
        block.value = libs.bls.ndnGenBLSSignature libs.tlv signer.secretKey unsigned

/-- The names of the next result in the replies to a request, in their order. -/
def nextNames (aesKey : Buffer) (index : Nat) (outputs : List SignerOutput) : List Name :=
  outputs.filterMap fun
    | .result request data =>
      if request = index then nextNameOf libs.tlv libs.ssl aesKey data else none
    | .ack _ | .fetch _ => none

/-- What a request owes to what has happened to it. -/
structure Served (start : SignerState) (recorded : RecordedSigner) (index : Nat)
    (state : SignRequestState) : Prop where
  requested : signer.Requested libs recorded.past state
  signed : state.code = .ok → ∃ unsigned,
    signer.Approved libs start recorded.past index state unsigned ∧
      state.signatureValue = libs.bls.ndnGenBLSSignature libs.tlv signer.secretKey unsigned
  version : state.version = (nextNames libs state.aesKey index recorded.outputs).length % 2 ^ 64
  names : nextNames libs state.aesKey index recorded.outputs =
    (List.range (nextNames libs state.aesKey index recorded.outputs).length).map fun reply =>
      state.resultPrefix.append (libs.tlv.fromVersion ((reply + 1) % 2 ^ 64))

/-- What holds in every state of a run of a signer. -/
structure Sound (start : SignerState) (recorded : RecordedSigner) : Prop where
  ran : Run.after (Recorded.next (signer.step libs)) recorded.past (.start start) = some recorded
  served : ∀ index request, recorded.state.requests[index]? = some request →
    signer.Served libs start recorded index request.state
  justified : ∀ index result, .result index result ∈ recorded.outputs →
    signer.Justified libs start recorded index result

end Statements

section Steps

variable {libs : Libraries SecretKey PublicKey Signature} {signer : BLSSigner SecretKey}
variable {start : SignerState} {recorded after : RecordedSigner} {event : SignerEvent}
variable {past : List SignerEvent} {index : Nat} {state other : SignRequestState}

/-- What was asked for stays asked for. -/
theorem Requested.mono (requested : signer.Requested libs past state)
    (same : SameRequest state other) : signer.Requested libs (past ++ [event]) other := by
  -- The interest came before the event as well, and the request keeps its keys.
  obtain ⟨interest, draw, accepted, came, verified, digest, accepts, own⟩ := requested
  exact ⟨interest, draw, accepted, List.mem_append_left _ came, verified, digest, accepts,
    same.aesKey.trans own.aesKey, same.hmacKey.trans own.hmacKey,
    same.resultPrefix.trans own.resultPrefix⟩

/-- What was approved of stays approved of. -/
theorem Approved.mono {unsigned : Data}
    (approved : signer.Approved libs start past index state unsigned)
    (same : SameRequest state other) :
    signer.Approved libs start (past ++ [event]) index other unsigned := by
  -- The packet stays where it is in the past, and what it was checked with stays the same.
  obtain ⟨earlier, para, later, before, split, ran, verified, decrypted, approves⟩ := approved
  refine ⟨earlier, para, later ++ [event], before, ?_, ran, ?_, ?_, approves⟩
  · rw [split, List.append_assoc, List.cons_append]
  · rw [same.hmacKey]
    exact verified
  · rw [same.aesKey]
    exact decrypted

/-- A reply that was justified stays justified. -/
theorem Justified.mono {result : Data}
    (justified : signer.Justified libs start recorded index result)
    {outputs : List SignerOutput}
    (step : Step libs signer recorded.state event after.state outputs)
    (past : after.past = recorded.past ++ [event]) :
    signer.Justified libs start after index result := by
  -- The request keeps its keys and its name, and the past only grows.
  obtain ⟨request, blocks, found, parsed, signed⟩ := justified
  obtain ⟨left, there, same⟩ := step.keeps found
  refine ⟨left, blocks, there, ?_, fun block carried => ?_⟩
  · rw [same.aesKey]
    exact parsed
  · obtain ⟨requested, unsigned, approved, value⟩ := signed block carried
    rw [past]
    exact ⟨requested.mono same, unsigned, approved.mono same, value⟩

/-- Without a reply to a request no name is given for its next result. -/
theorem nextNames_eq_nil {aesKey : Buffer} {outputs : List SignerOutput}
    (silent : ∀ result, .result index result ∉ outputs) :
    nextNames libs aesKey index outputs = [] := by
  -- Acknowledgements, Interests and replies to other requests give no name.
  unfold nextNames
  rw [List.filterMap_eq_nil_iff]
  intro output member
  cases output with
  | ack data => rfl
  | fetch interest => rfl
  | result request data =>
    have apart : request ≠ index := by
      intro same
      exact silent data (same ▸ member)
    exact if_neg apart

/-- What is put on the face otherwise does not count as a reply to a request. -/
theorem nextNames_append_of_not_mem {aesKey : Buffer} {outputs further : List SignerOutput}
    (silent : ∀ result, .result index result ∉ further) :
    nextNames libs aesKey index (outputs ++ further) = nextNames libs aesKey index outputs := by
  have none : nextNames libs aesKey index further = [] := nextNames_eq_nil silent
  rw [nextNames, List.filterMap_append, ← nextNames, ← nextNames, none, List.append_nil]

/-- A request that is not replied to stays served, and so it does once the packet it signs is
approved of. -/
theorem Served.silent (served : signer.Served libs start recorded index state)
    (same : SameRequest state other) (version : other.version = state.version)
    {outputs : List SignerOutput} (past : after.past = recorded.past ++ [event])
    (put : after.outputs = recorded.outputs ++ outputs)
    (silent : ∀ result, .result index result ∉ outputs)
    (signed : other.code = .ok → (state.code = .ok ∧ other.signatureValue = state.signatureValue) ∨
      ∃ unsigned, signer.Approved libs start after.past index other unsigned ∧
        other.signatureValue = libs.bls.ndnGenBLSSignature libs.tlv signer.secretKey unsigned) :
    signer.Served libs start after index other := by
  -- Nothing is put on the face for this request, so the names are the same.
  have names : nextNames libs other.aesKey index after.outputs =
      nextNames libs state.aesKey index recorded.outputs := by
    rw [put, same.aesKey]
    exact nextNames_append_of_not_mem silent
  refine ⟨?_, ?_, ?_, ?_⟩
  · rw [past]
    exact served.requested.mono same
  · intro final
    rcases signed final with ⟨before, value⟩ | now
    · obtain ⟨unsigned, approved, own⟩ := served.signed before
      rw [past]
      exact ⟨unsigned, approved.mono same, value.trans own⟩
    · exact now
  · rw [names, version]
    exact served.version
  · rw [names, same.resultPrefix]
    exact served.names

/-- A request that is replied to stays served: the reply counts as one more where the signer is
processing. -/
theorem Served.replied (lossless : libs.tlv.Lossless) (matching : libs.ssl.Matching)
    (served : signer.Served libs start recorded index state) (interestName : Name)
    (random : Buffer) (past : after.past = recorded.past ++ [event])
    (put : after.outputs = recorded.outputs ++ [.result index (libs.keyChain.signWithHmac
      state.hmacKey (generateResultData libs.tlv libs.ssl interestName state random).1)]) :
    signer.Served libs start after index
      (generateResultData libs.tlv libs.ssl interestName state random).2 := by
  have same := same_generateResultData libs.tlv libs.ssl interestName state random
  -- The reply gives one more name while the request is in progress, and none later.
  have replied : nextNames libs state.aesKey index after.outputs =
      nextNames libs state.aesKey index recorded.outputs ++
        if state.code = .processing then [state.resultPrefix.append
          (libs.tlv.fromVersion ((state.version + 1) % 2 ^ 64))] else [] := by
    have named := nextNameOf_generateResultData lossless matching interestName state random
      state.hmacKey
    rw [put, nextNames, List.filterMap_append, ← nextNames]
    by_cases processing : state.code = .processing
    · rw [if_pos processing] at named ⊢
      simp [named]
    · rw [if_neg processing] at named ⊢
      simp [named]
  rw [generateResultData_state] at same ⊢
  refine ⟨?_, ?_, ?_, ?_⟩
  · rw [past]
    exact served.requested.mono same
  · intro final
    obtain ⟨unsigned, approved, value⟩ := served.signed final
    rw [past]
    exact ⟨unsigned, approved.mono same, value⟩
  · by_cases processing : state.code = .processing
    · have version := served.version
      simp only [replied, processing, if_true, List.length_append, List.length_singleton]
      omega
    · simp only [replied, processing, if_false, List.append_nil]
      exact served.version
  · by_cases processing : state.code = .processing
    · -- The version is the number of replies so far, so the new name is the next one.
      have version := served.version
      have names := served.names
      simp only [replied, processing, if_true, List.length_append, List.length_singleton,
        List.range_succ, List.map_append, List.map_cons, List.map_nil]
      generalize nextNames libs state.aesKey index recorded.outputs = listed at version names
      rw [← names, version]
      have counted : (listed.length % 2 ^ 64 + 1) % 2 ^ 64 = (listed.length + 1) % 2 ^ 64 := by
        omega
      rw [counted]
    · simp only [replied, processing, if_false, List.append_nil]
      exact served.names

/-- A request that has just been accepted is served. -/
theorem served_of_accepted {interest : Interest} {draw : RequestDraw} {accepted : Accepted}
    (accepts : signer.onSignRequest libs interest draw = .ok (.inr accepted))
    (past : after.past = recorded.past ++ [.signRequest interest draw])
    (silent : ∀ result, .result index result ∉ after.outputs) :
    signer.Served libs start after index accepted.state := by
  -- A request that has just been accepted is in progress, and has no reply.
  obtain ⟨verified, digest, code, version⟩ := onSignRequest_accepted accepts
  have names : nextNames libs accepted.state.aesKey index after.outputs = [] :=
    nextNames_eq_nil silent
  refine ⟨?_, ?_, ?_, ?_⟩
  · refine ⟨interest, draw, accepted, ?_, verified, digest, accepts, ⟨rfl, rfl, rfl⟩⟩
    rw [past]
    exact List.mem_append_right _ List.mem_cons_self
  · intro final
    rw [code] at final
    cases final
  · rw [names, version]
    rfl
  · rw [names]
    rfl

/-- What the parameter packet makes of a request keeps it served: it signs only what it approves
of. -/
theorem Served.fetched (sound : signer.Sound libs start recorded)
    (served : signer.Served libs start recorded index state) {para : Data}
    (fetched : Fetched libs signer recorded.state.tpm state para other)
    (past : after.past = recorded.past ++ [.parameterData index para])
    (put : after.outputs = recorded.outputs) : signer.Served libs start after index other := by
  obtain ⟨same, version⟩ := fetched.same
  refine served.silent same version past (put.trans (List.append_nil _).symm) (by simp) ?_
  intro final
  -- Only the approved packet is signed, and it is the one that has just come.
  cases fetched with
  | unverified => exact .inl ⟨final, rfl⟩
  | rejected code => exact absurd final code
  | @approved unsigned verified decrypted approves =>
    exact .inr ⟨unsigned, ⟨recorded.past, para, [], recorded, past, sound.ran, verified, decrypted,
      approves⟩, rfl⟩

/-- Where one request changes, all are served if the changed one is and the others stay so. -/
theorem served_setRequest {changed : Nat} {request left : SignRequest}
    (found : recorded.state.requests[changed]? = some request)
    (set : after.state.requests = (recorded.state.setRequest changed left).requests)
    (self : signer.Served libs start after changed left.state)
    (others : ∀ index request, index ≠ changed → recorded.state.requests[index]? = some request →
      signer.Served libs start after index request.state) :
    ∀ index request, after.state.requests[index]? = some request →
      signer.Served libs start after index request.state := by
  intro index other there
  rw [set, getElem?_setRequest found] at there
  -- The state at the changed place is the new one, and every other is as it was.
  by_cases here : index = changed
  · rw [if_pos here, Option.some.injEq] at there
    rw [← there, here]
    exact self
  · rw [if_neg here] at there
    exact others index other here there

/-- The reply to a served request is justified: the request's state says what it carries. -/
theorem Served.justifies (lossless : libs.tlv.Lossless) (matching : libs.ssl.Matching)
    (served : signer.Served libs start recorded index state) (interestName : Name)
    (random : Buffer) (past : after.past = recorded.past ++ [event])
    {fetch : Option (Except Fault Interest)} (there : after.state.requests[index]? =
      some ⟨(generateResultData libs.tlv libs.ssl interestName state random).2, fetch⟩) :
    signer.Justified libs start after index (libs.keyChain.signWithHmac state.hmacKey
      (generateResultData libs.tlv libs.ssl interestName state random).1) := by
  have terms := same_generateResultData libs.tlv libs.ssl interestName state random
  refine ⟨_, resultElements libs.tlv state, there, ?_, fun block carried => ?_⟩
  · -- The reply is read with the key of the request, which it does not change.
    rw [terms.aesKey]
    exact parseResultData_generateResultData lossless matching interestName state random
      state.hmacKey
  · -- A reply with a signature belongs to a request that has been signed for.
    obtain ⟨final, value⟩ := getBlock_blsSigValue carried
    obtain ⟨unsigned, approved, own⟩ := served.signed final
    rw [past]
    exact ⟨served.requested.mono terms, unsigned, approved.mono terms, value.trans own⟩

/-- Every step of a signer keeps its requests served and its replies justified. -/
theorem Sound.step (lossless : libs.tlv.Lossless) (matching : libs.ssl.Matching)
    (sound : signer.Sound libs start recorded)
    (taken : Recorded.next (signer.step libs) recorded event = some after) :
    signer.Sound libs start after := by
  obtain ⟨outputs, stepped, past, put⟩ := Recorded.next_cases taken
  have ran : Run.after (Recorded.next (signer.step libs)) after.past (.start start) =
      some after := by
    rw [past, Run.after_append, sound.ran, Option.bind_some, Run.after, taken]
    rfl
  -- A reply of the past stays justified whatever happens, and most steps add none.
  have step := step_cases stepped
  -- The past replies are justified by the hypothesis, and the step only adds to the past.
  have kept : ∀ index result, .result index result ∈ recorded.outputs →
      signer.Justified libs start after index result := fun index result member =>
    (sound.justified index result member).mono step past
  have quiet : (∀ index result, .result index result ∉ outputs) → ∀ index result,
      .result index result ∈ after.outputs → signer.Justified libs start after index result := by
    intro silent index result member
    rw [put] at member
    rcases List.mem_append.mp member with before | now
    · exact kept index result before
    · exact absurd now (silent index result)
  -- So do the requests that the event is not about.
  have others : ∀ index request, recorded.state.requests[index]? = some request →
      (∀ result, .result index result ∉ outputs) →
      signer.Served libs start after index request.state := fun index request found silent =>
    (sound.served index request found).silent ⟨rfl, rfl, rfl⟩ rfl past put silent
      fun final => .inl ⟨final, rfl⟩
  generalize left : after.state = state at step
  -- Only an event about a request changes one, and only an answer adds a reply.
  cases step with
  | refused silent =>
    refine ⟨ran, fun index request found => ?_, quiet silent⟩
    rw [left] at found
    exact others index request found (silent index)
  | ignored =>
    refine ⟨ran, fun index request found => ?_, quiet (by simp)⟩
    rw [left] at found
    exact others index request found (by simp)
  | @accepted interest draw accepted accepts =>
    refine ⟨ran, fun index request found => ?_, quiet (by simp)⟩
    rw [left] at found
    -- The accepted request is put behind the ones that were there.
    by_cases old : index < recorded.state.requests.length
    · rw [List.getElem?_append_left old] at found
      exact others index request found (by simp)
    · rw [List.getElem?_append_right (Nat.le_of_not_lt old)] at found
      rw [List.mem_singleton.mp (List.mem_of_getElem? found)]
      refine served_of_accepted accepts past fun result member => ?_
      -- Nothing has been replied to a request that was not there.
      rw [put] at member
      rcases List.mem_append.mp member with before | now
      · obtain ⟨other, blocks, there, -⟩ := sound.justified index result before
        exact old (List.getElem?_eq_some_iff.mp there).1
      · simp at now
  | @fetched changed para request state found fetched =>
    have self := (sound.served changed request found).fetched sound fetched past
      (put.trans (List.append_nil _))
    exact ⟨ran, served_setRequest found (congrArg SignerState.requests left) self
      fun index request _ there => others index request there (by simp), quiet (by simp)⟩
  | @failed event changed request found =>
    have self : signer.Served libs start after changed (onParameterFailure request.state) := by
      refine (sound.served changed request found).silent ⟨rfl, rfl, rfl⟩ rfl past put (by simp) ?_
      intro final
      -- A failed fetch leaves an error code, and so no signature.
      cases final
    exact ⟨ran, served_setRequest found (congrArg SignerState.requests left) self
      fun index request _ there => others index request there (by simp), quiet (by simp)⟩
  | @answered changed interest random request found =>
    have served := sound.served changed request found
    have set : after.state.requests = (recorded.state.setRequest changed
        ⟨(generateResultData libs.tlv libs.ssl interest.name request.state random).2,
          request.fetch⟩).requests := by rw [left]
    have there : after.state.requests[changed]? = some ⟨(generateResultData libs.tlv libs.ssl
        interest.name request.state random).2, request.fetch⟩ := by
      rw [set]
      exact (getElem?_setRequest found changed).trans (if_pos rfl)
    refine ⟨ran, served_setRequest found set ?_ fun index other apart there => ?_,
      fun index result member => ?_⟩
    · exact served.replied lossless matching interest.name random past put
    · refine others index other there fun result member => apart ?_
      simp only [List.mem_singleton, SignerOutput.result.injEq] at member
      exact member.1
    · rw [put] at member
      rcases List.mem_append.mp member with before | now
      · exact kept index result before
      · simp only [List.mem_singleton, SignerOutput.result.injEq] at now
        obtain ⟨same, reply⟩ := now
        rw [same, reply]
        exact served.justifies lossless matching interest.name random past there

/-- In every run of a signer, each reply that carries a signature answers a request that passed
both checks, with the signature of a packet that came under the request's own key and that the
application approved of, and the versions in the replies that it is processing increase. -/
theorem sound_of_run (libs : Libraries SecretKey PublicKey Signature) (lossless : libs.tlv.Lossless)
    (matching : libs.ssl.Matching) (signer : BLSSigner SecretKey) {start : SignerState}
    (unused : start.requests = []) {events : List SignerEvent} {final : RecordedSigner}
    (run : Run.after (Recorded.next (signer.step libs)) events (.start start) = some final) :
    (∀ index result, .result index result ∈ final.outputs →
      signer.Justified libs start final index result) ∧
    ∀ index request, final.state.requests[index]? = some request →
      (nextNames libs request.state.aesKey index final.outputs).length < 2 ^ 64 →
      ∃ versions : List Nat, versions.Pairwise (· < ·) ∧ (∀ version ∈ versions, version < 2 ^ 64) ∧
        nextNames libs request.state.aesKey index final.outputs = versions.map fun version =>
          request.state.resultPrefix.append (libs.tlv.fromVersion version) := by
  have initial : signer.Sound libs start (.start start) := by
    refine ⟨rfl, fun index request found => ?_, fun index result member => by cases member⟩
    simp [Recorded.start, unused] at found
  have sound : signer.Sound libs start final := Run.always
    (fun recorded event after sound taken => sound.step lossless matching taken) initial run
  refine ⟨sound.justified, fun index request found few => ?_⟩
  have names := (sound.served index request found).names
  generalize nextNames libs request.state.aesKey index final.outputs = listed at few names
  -- Below the bound no version is reduced, so the versions count the replies from one on.
  refine ⟨(List.range listed.length).map (· + 1), ?_, ?_, ?_⟩
  · rw [List.pairwise_map]
    exact List.pairwise_lt_range.imp fun less => Nat.add_lt_add_right less 1
  · intro version member
    obtain ⟨reply, inside, same⟩ := List.mem_map.mp member
    rw [List.mem_range] at inside
    omega
  · rw [List.map_map]
    refine names.trans (List.map_congr_left fun reply inside => ?_)
    rw [List.mem_range] at inside
    have whole : (reply + 1) % 2 ^ 64 = reply + 1 := Nat.mod_eq_of_lt (by omega)
    simp only [Function.comp_apply, whole]

end Steps

end BLSSigner

namespace Reference

/-- An initiator asks for the result of the first request of a signer. -/
def pollResult (state : SignRequestState) : SignerEvent :=
  .resultInterest 0 (libraries.keyChain.signInterest (.ofTexts ["i", "KEY", "1"]) [9]
    ⟨state.resultPrefix.append (libraries.tlv.fromVersion 0), none, true, true, none, none⟩) [5]

/-- A sign request, a poll while the parameter packet is missing, the packet, and another poll. -/
def signEvents : List SignerEvent :=
  match anySigner.onSignRequest libraries signRequest signDraw with
  | .ok (.inr ⟨_, state, .ok fetchInterest⟩) =>
    let payload := libraries.tlv.encode [libraries.tlv.encodeData
      { Data.ofName (.ofTexts ["d"]) with
        signatureInfo := some ⟨3, none⟩, signatureValue := some [] }]
    let parameter := (Data.ofName fetchInterest.name).setContent libraries.tlv
      (encodeBlockWithAesGcm128 libraries.tlv libraries.ssl Tlv.contentType state.aesKey payload
        [4]).wire
    [.signRequest signRequest signDraw, pollResult state,
      .parameterData 0 (libraries.keyChain.signWithHmac state.hmacKey parameter), pollResult state]
  | _ => []

end Reference

open Reference in
/-- The soundness of a run with two replies, of which the second one carries a signature. -/
theorem BLSSigner.sound_of_run_signEvents :
    ∃ final, Run.after (Recorded.next (anySigner.step libraries)) signEvents
        (.start ⟨[], []⟩) = some final ∧ final.outputs.length = 4 ∧
      (final.state.requests.map fun request => request.state.code) = [.ok] ∧
      ∀ index result, .result index result ∈ final.outputs →
        anySigner.Justified libraries ⟨[], []⟩ final index result := by
  -- The first reply is in progress, and the second one comes after the parameter packet.
  have ran : (Run.after (Recorded.next (anySigner.step libraries)) signEvents
      (.start ⟨[], []⟩)).map (fun final => (final.outputs.length,
        final.state.requests.map fun request => request.state.code)) = some (4, [.ok]) := by
    decide +kernel
  obtain ⟨final, run, both⟩ := Option.map_eq_some_iff.mp ran
  obtain ⟨four, codes⟩ := Prod.mk.inj both
  exact ⟨final, run, four, codes,
    (sound_of_run libraries PacketFormat.tlv_lossless openssl_matching anySigner rfl run).1⟩

end NdnMps
