import NdnMps.Signer.Approval

/-! What a signer has to say to one request: it counts while it is processing, and then it has one
last word. -/

namespace NdnMps

variable {SecretKey PublicKey Signature : Type}

/-- The replies to a request among what a signer has put on its face, in their order. -/
def repliesTo (index : Nat) (outputs : List SignerOutput) : List Data :=
  outputs.filterMap fun
    | .result request data => if request = index then some data else none
    | _ => none

@[simp] theorem repliesTo_append (index : Nat) (first second : List SignerOutput) :
    repliesTo index (first ++ second) = repliesTo index first ++ repliesTo index second :=
  List.filterMap_append

/-- Acknowledgements and Interests are no replies. -/
@[simp] theorem repliesTo_accepted (index : Nat) (ack : Data) (fetch : Except Fault Interest) :
    repliesTo index (.ack ack :: fetch.toOption.toList.map .fetch) = [] := by
  cases fetch <;> rfl

/-- A reply is one to its own request. -/
theorem repliesTo_result (index request : Nat) (data : Data) :
    repliesTo index [.result request data] = if request = index then [data] else [] := by
  by_cases same : request = index <;> simp [repliesTo, same]

/-- Without a result there is no reply. -/
theorem repliesTo_eq_nil {index : Nat} {outputs : List SignerOutput}
    (silent : ∀ data, .result index data ∉ outputs) : repliesTo index outputs = [] := by
  refine List.filterMap_eq_nil_iff.mpr fun output member => ?_
  cases output with
  | result request data =>
    refine if_neg fun same => ?_
    subst same
    exact silent data member
  | _ => rfl

/-- What the reader of a reply finds that the signer gives while it is processing, when it has given
so many of them. -/
def progressElements (tlv : Tlv) (state : SignRequestState) (given : Nat) : List Block :=
  resultElements tlv { state with code := .processing, version := given }

/-- The replies to a request, as they are read with its key: those in progress, which name the
versions from one on, and then nothing or the one that says how the request has ended. -/
inductive Converses (libs : Libraries SecretKey PublicKey Signature) (replies : List Data)
    (request : SignRequest) : Prop where
  /-- There has been no last reply, and the next one in progress has the next number. -/
  | goesOn {given : Nat} (version : request.state.version = given % 2 ^ 64)
      (waits : request.fetch.isSome = true → request.state.code = .processing)
      (read : replies.map (parseResultData libs.tlv libs.ssl request.state.aesKey) =
        (List.range given).map fun earlier => .ok (progressElements libs.tlv request.state earlier))
  /-- The last reply has been given, and no Interest is answered any more. -/
  | ended {given : Nat} (concluded : request.state.code ≠ .processing)
      (fetched : request.fetch = none) (silent : request.state.resultPrefixRegistered = false)
      (read : replies.map (parseResultData libs.tlv libs.ssl request.state.aesKey) =
        ((List.range given).map fun earlier =>
          .ok (progressElements libs.tlv request.state earlier)) ++
            [.ok (resultElements libs.tlv request.state)])

/-- The elements of a reply in progress depend on the name of the results only, and on the number
within its range. -/
theorem progressElements_congr (tlv : Tlv) {state other : SignRequestState}
    (same : other.resultPrefix = state.resultPrefix) :
    progressElements tlv other = progressElements tlv state := by
  funext given
  simp only [progressElements, resultElements, same]

/-- The number of a reply in progress counts modulo the range of the version. -/
theorem resultElements_processing (tlv : Tlv) {state : SignRequestState} {given : Nat}
    (processing : state.code = .processing) (version : state.version = given % 2 ^ 64) :
    resultElements tlv state = progressElements tlv state given := by
  simp only [progressElements, resultElements, processing, version, Nat.mod_add_mod]

namespace BLSSigner

variable {libs : Libraries SecretKey PublicKey Signature} {signer : BLSSigner SecretKey}
variable {signerState after : SignerState} {index : Nat} {outputs : List SignerOutput}

/-- A failed fetch is that of a request whose Interest is pending. -/
theorem failFetch_cases (failed : failFetch signerState index = some (after, outputs)) :
    ∃ request, signerState.requests[index]? = some request ∧ request.fetch.isSome = true ∧
      after = signerState.setRequest index ⟨onParameterFailure request.state, none⟩ ∧
      outputs = [] := by
  obtain ⟨request, found, failed⟩ := Option.bind_eq_some_iff.mp failed
  split at failed
  · cases failed
    exact ⟨request, found, SignRequest.isSome_fetch ‹_›, rfl, rfl⟩
  · cases failed

/-- A result Interest is answered only while the filter for it is set. -/
theorem step_resultInterest {interest : Interest} {random : Buffer}
    (stepped : signer.step libs signerState (.resultInterest index interest random) =
      some (after, outputs)) :
    (after = signerState ∧ outputs = []) ∨
      ∃ request, signerState.requests[index]? = some request ∧
        request.state.resultPrefixRegistered = true ∧
        after = { signerState.setRequest index
          ⟨(generateResultData libs.tlv libs.ssl interest.name request.state random).2,
            request.fetch⟩ with tpm := signerState.tpm.insert request.state.hmacKey } ∧
        outputs = [.result index (libs.keyChain.signWithHmac request.state.hmacKey
          (generateResultData libs.tlv libs.ssl interest.name request.state random).1)] := by
  -- The filter is looked at first, then the length of the name.
  obtain ⟨request, found, stepped⟩ := Option.bind_eq_some_iff.mp stepped
  split at stepped
  · rename_i registered
    cases answer : signer.onResultInterest libs signerState.tpm request.state interest random with
    | none =>
      simp only [answer, Option.some.injEq] at stepped
      cases stepped
      exact .inl ⟨rfl, rfl⟩
    | some answered =>
      simp only [answer, Option.some.injEq] at stepped
      rw [onResultInterest_eq answer] at stepped
      cases stepped
      exact .inr ⟨request, found, (Bool.and_eq_true_iff.mp registered).1, rfl, rfl⟩
  · cases stepped

/-- An accepted request has had no reply. -/
theorem converses_accepted {interest : Interest} {draw : RequestDraw} {accepted : Accepted}
    (accepts : signer.onSignRequest libs interest draw = .ok (.inr accepted)) :
    Converses libs [] ⟨accepted.state, some accepted.fetch⟩ := by
  obtain ⟨-, -, processing, version⟩ := onSignRequest_accepted accepts
  have counted : accepted.state.version = 0 % 2 ^ 64 := version
  exact .goesOn counted (fun _ => processing) rfl

end BLSSigner

namespace Converses

variable {libs : Libraries SecretKey PublicKey Signature} {replies : List Data}
variable {request : SignRequest}

/-- However the fetch of the parameter packet ends, it ends before the last reply. -/
theorem fetched (converses : Converses libs replies request)
    (pending : request.fetch.isSome = true) {state : SignRequestState}
    (same : BLSSigner.SameRequest request.state state)
    (version : state.version = request.state.version) :
    Converses libs replies ⟨state, none⟩ := by
  cases converses with
  | goesOn counted waits read =>
    refine .goesOn (version.trans counted) (by simp) ?_
    rw [same.aesKey, progressElements_congr libs.tlv same.resultPrefix]
    exact read
  | ended concluded fetched => simp [fetched] at pending

/-- An answered Interest gets one more reply in progress, or the last one. -/
theorem answered (lossless : libs.tlv.Lossless) (matching : libs.ssl.Matching)
    (converses : Converses libs replies request)
    (registered : request.state.resultPrefixRegistered = true) (interestName : Name)
    (random : Buffer) :
    Converses libs
      (replies ++ [libs.keyChain.signWithHmac request.state.hmacKey
        (generateResultData libs.tlv libs.ssl interestName request.state random).1])
      ⟨(generateResultData libs.tlv libs.ssl interestName request.state random).2,
        request.fetch⟩ := by
  have reply := parseResultData_generateResultData lossless matching interestName request.state
    random request.state.hmacKey
  have same := BLSSigner.same_generateResultData libs.tlv libs.ssl interestName request.state random
  have later := @BLSSigner.generateResultData_state libs.tlv libs.ssl interestName request.state
    random
  cases converses with
  | ended concluded fetched silent => simp [silent] at registered
  | @goesOn given counted waits read =>
    by_cases processing : request.state.code = .processing
    · -- The version counts one up, and the reply has named it.
      refine @goesOn _ _ _ libs _ _ (given + 1) ?_ (fun _ => ?_) ?_
      · rw [later, if_pos processing, counted, Nat.mod_add_mod]
      · rw [later]
        exact processing
      · rw [same.aesKey, progressElements_congr libs.tlv same.resultPrefix, List.map_append, read,
          List.map_singleton, reply, resultElements_processing libs.tlv processing counted,
          List.range_succ, List.map_append, List.map_singleton]
    · have concluded : request.fetch = none := by
        cases fetch : request.fetch with
        | none => rfl
        | some interest => exact absurd (waits (by rw [fetch]; rfl)) processing
      have elements : resultElements libs.tlv
          (generateResultData libs.tlv libs.ssl interestName request.state random).2 =
            resultElements libs.tlv request.state := by
        rw [later, if_neg processing]
        rfl
      -- The filter is taken away, and what has been read is followed by the last reply.
      refine @ended _ _ _ libs _ _ given ?_ concluded ?_ ?_
      · rw [later]
        exact processing
      · rw [later]
        simp [processing]
      · rw [same.aesKey, progressElements_congr libs.tlv same.resultPrefix, elements,
          List.map_append, read, List.map_singleton, reply]

end Converses

namespace BLSSigner

variable {libs : Libraries SecretKey PublicKey Signature} {signer : BLSSigner SecretKey}

/-- What a signer has put on its face is a conversation with each of its requests. -/
structure Conversing (libs : Libraries SecretKey PublicKey Signature) (recorded : RecordedSigner) :
    Prop where
  bounded : ∀ index data, .result index data ∈ recorded.outputs →
    index < recorded.state.requests.length
  converses : ∀ index request, recorded.state.requests[index]? = some request →
    Converses libs (repliesTo index recorded.outputs) request

/-- One request changes, and what is put on the face is for that one. -/
theorem Conversing.setRequest {recorded : RecordedSigner} (conversing : Conversing libs recorded)
    {index : Nat} {request other : SignRequest} (past : List SignerEvent) (tpm : List Buffer)
    {outputs : List SignerOutput} (found : recorded.state.requests[index]? = some request)
    (only : ∀ place data, .result place data ∈ outputs → place = index)
    (converses : Converses libs (repliesTo index recorded.outputs ++ repliesTo index outputs)
      other) :
    Conversing libs ⟨{ recorded.state.setRequest index other with tpm }, past,
      recorded.outputs ++ outputs⟩ := by
  have length : (recorded.state.setRequest index other).requests.length =
      recorded.state.requests.length := List.length_set
  refine ⟨fun place data member => ?_, fun place one there => ?_⟩
  · dsimp only
    rw [length]
    rcases List.mem_append.mp member with old | new
    · exact conversing.bounded place data old
    · rw [only place data new]
      exact (List.getElem?_eq_some_iff.mp found).1
  · dsimp only at there ⊢
    rw [getElem?_setRequest found] at there
    rw [repliesTo_append]
    by_cases here : place = index
    · rw [if_pos here] at there
      cases there
      rw [here]
      exact converses
    · -- The outputs are for another request.
      rw [if_neg here] at there
      rw [repliesTo_eq_nil fun data member => here (only place data member), List.append_nil]
      exact conversing.converses place one there

/-- The fetch of a parameter packet ends, and nothing is put on the face. -/
theorem Conversing.fetched {recorded : RecordedSigner} (conversing : Conversing libs recorded)
    {index : Nat} {request : SignRequest} {state : SignRequestState} (past : List SignerEvent)
    (found : recorded.state.requests[index]? = some request) (pending : request.fetch.isSome = true)
    (same : SameRequest request.state state) (version : state.version = request.state.version) :
    Conversing libs ⟨recorded.state.setRequest index ⟨state, none⟩, past,
      recorded.outputs ++ []⟩ := by
  refine conversing.setRequest past recorded.state.tpm found (by simp) ?_
  rw [← repliesTo_append, List.append_nil]
  exact (conversing.converses index request found).fetched pending same version

/-- Nothing is replied to anybody. -/
theorem Conversing.silent {recorded : RecordedSigner} (conversing : Conversing libs recorded)
    (past : List SignerEvent) {outputs : List SignerOutput}
    (silent : ∀ place data, .result place data ∉ outputs) :
    Conversing libs ⟨recorded.state, past, recorded.outputs ++ outputs⟩ := by
  refine ⟨fun place data member => ?_, fun place request found => ?_⟩
  · rcases List.mem_append.mp member with old | new
    · exact conversing.bounded place data old
    · exact absurd new (silent place data)
  · rw [repliesTo_append, repliesTo_eq_nil (silent place), List.append_nil]
    exact conversing.converses place request found

/-- A request is accepted, and its conversation begins. -/
theorem Conversing.accepted {recorded : RecordedSigner} (conversing : Conversing libs recorded)
    (past : List SignerEvent) {interest : Interest} {draw : RequestDraw} {accepted : Accepted}
    (accepts : signer.onSignRequest libs interest draw = .ok (.inr accepted)) :
    Conversing libs ⟨{ recorded.state with
      requests := recorded.state.requests ++ [⟨accepted.state, some accepted.fetch⟩] }, past,
      recorded.outputs ++
        .ack accepted.ack :: accepted.fetch.toOption.toList.map .fetch⟩ := by
  refine ⟨fun place data member => ?_, fun place request found => ?_⟩
  · rw [List.length_append, List.length_singleton]
    have old : .result place data ∈ recorded.outputs := by simpa using member
    exact Nat.lt_succ_of_lt (conversing.bounded place data old)
  · dsimp only at found ⊢
    rw [repliesTo_append, repliesTo_accepted, List.append_nil]
    by_cases old : place < recorded.state.requests.length
    · rw [List.getElem?_append_left old] at found
      exact conversing.converses place request found
    · -- The new request is the last one, and there has been no reply to it.
      rw [List.getElem?_append_right (Nat.not_lt.mp old), List.getElem?_singleton] at found
      split at found
      · cases found
        rw [repliesTo_eq_nil fun data member => old (conversing.bounded place data member)]
        exact converses_accepted accepts
      · cases found

/-- A step goes on with every conversation, and begins one where a request is accepted. -/
theorem Conversing.next (lossless : libs.tlv.Lossless) (matching : libs.ssl.Matching)
    {recorded after : RecordedSigner} {event : SignerEvent}
    (conversing : Conversing libs recorded)
    (taken : Recorded.next (signer.step libs) recorded event = some after) :
    Conversing libs after := by
  obtain ⟨⟨state, outputs⟩, stepped, same⟩ := Option.map_eq_some_iff.mp taken
  subst same
  -- Only accepted requests, ended fetches and result Interests touch a conversation.
  cases event with
  | signRequest interest draw =>
    simp only [step] at stepped
    split at stepped
    · cases stepped
    · cases stepped
      exact conversing.silent _ (by simp)
    · cases stepped
      exact conversing.silent _ (by simp)
    · rename_i accepted accepts
      cases stepped
      exact conversing.accepted _ accepts
  | parameterData index data =>
    obtain ⟨request, state, found, pending, handled, rfl, rfl⟩ := step_parameterData stepped
    obtain ⟨same, version⟩ := (onParameterData_fetched handled).same
    exact conversing.fetched _ found (SignRequest.isSome_fetch pending) same version
  | parameterNack index =>
    obtain ⟨request, found, pending, rfl, rfl⟩ := failFetch_cases stepped
    exact conversing.fetched _ found pending ⟨rfl, rfl, rfl⟩ rfl
  | parameterTimeout index =>
    obtain ⟨request, found, pending, rfl, rfl⟩ := failFetch_cases stepped
    exact conversing.fetched _ found pending ⟨rfl, rfl, rfl⟩ rfl
  | resultInterest index interest random =>
    rcases step_resultInterest stepped with ⟨rfl, rfl⟩ | ⟨request, found, registered, rfl, rfl⟩
    · exact conversing.silent _ (by simp)
    · refine conversing.setRequest _ _ found (by simp) ?_
      rw [repliesTo_result, if_pos rfl]
      exact (conversing.converses index request found).answered lossless matching registered
        interest.name random

/-- In every run of a signer, whatever it is sent and in whatever order: what it has replied to a
request is, for whoever has the key of the request, that it is processing, under the versions from
one on, and then nothing more or how the request has ended, after which no Interest for its results
is answered any more. -/
theorem converses_of_run (lossless : libs.tlv.Lossless) (matching : libs.ssl.Matching)
    (signer : BLSSigner SecretKey) {start : SignerState} (unused : start.requests = [])
    {events : List SignerEvent} {final : RecordedSigner}
    (run : Run.after (Recorded.next (signer.step libs)) events (.start start) = some final)
    {index : Nat} {request : SignRequest}
    (found : final.state.requests[index]? = some request) :
    Converses libs (repliesTo index final.outputs) request := by
  -- Induction on the run; at its start there is no request and no reply.
  have initial : Conversing libs (.start start) := by
    constructor
    · intro place data member
      cases member
    · intro place request there
      simp [Recorded.start, unused] at there
  have kept : ∀ (recorded : RecordedSigner) event after, Conversing libs recorded →
      Recorded.next (signer.step libs) recorded event = some after → Conversing libs after :=
    fun _ _ _ conversing taken => conversing.next lossless matching taken
  exact (Run.always kept initial run).converses index request found

end BLSSigner

open Reference in
/-- One reply in progress, and then the signature. -/
theorem BLSSigner.converses_of_run_signEvents :
    ∃ final request, Run.after (Recorded.next (anySigner.step libraries)) signEvents
        (.start ⟨[], []⟩) = some final ∧ final.state.requests[0]? = some request ∧
      Converses libraries (repliesTo 0 final.outputs) request := by
  have ran : ((Run.after (Recorded.next (anySigner.step libraries)) signEvents
      (.start ⟨[], []⟩)).bind fun final => final.state.requests[0]?).isSome = true := by
    decide +kernel
  obtain ⟨request, ran⟩ := Option.isSome_iff_exists.mp ran
  obtain ⟨final, run, found⟩ := Option.bind_eq_some_iff.mp ran
  exact ⟨final, request, run, found,
    converses_of_run PacketFormat.tlv_lossless openssl_matching anySigner rfl run found⟩

open Reference in
/-- The two replies differ in what is read of them. -/
example : (Run.after (Recorded.next (anySigner.step libraries)) signEvents
    (.start ⟨[], []⟩)).map (fun final => final.state.requests.map fun request =>
      (repliesTo 0 final.outputs).map fun reply =>
        ((parseResultData libraries.tlv libraries.ssl request.state.aesKey reply).toOption.map
          List.length)) = some [[some 3, some 2]] := by
  decide +kernel

end NdnMps
