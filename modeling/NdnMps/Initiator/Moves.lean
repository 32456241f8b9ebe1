import NdnMps.Initiator
import NdnMps.Schema.Renewal

/-! What one step of the initiator can do to a session, said once. -/

namespace NdnMps

variable {SecretKey PublicKey Signature : Type}

namespace Session

variable (libs : Libraries SecretKey PublicKey Signature)

/-- The session once a remote call waits for nothing any more. -/
def closeRpc (session : Session) (index : Nat) (perSigner : MultiSignPerSignerState) : Session :=
  session.setRpc index { perSigner with phase := .ended }

/-- Remote calls are appended in order, and each start is recorded. -/
theorem performRPCs_eq (initiatorPrefix : Name) (draws : Name → RpcDraw)
    (signerKeyNames : List Name) (session : Session) :
    performRPCs libs initiatorPrefix draws signerKeyNames session =
      { session with
        rpcs := session.rpcs ++ signerKeyNames.map fun signerKeyName =>
          newRpc libs initiatorPrefix session.global.toBeSigned session.global.signingKeyName
            signerKeyName (draws signerKeyName)
        history := session.history ++ signerKeyNames.map .performRPC } := by
  -- One call appends one remote call and one record to the session.
  induction signerKeyNames generalizing session with
  | nil => simp [performRPCs]
  | cons signerKeyName rest ih =>
    have unfolded : performRPCs libs initiatorPrefix draws (signerKeyName :: rest) session =
        performRPCs libs initiatorPrefix draws rest
          (performRPC libs initiatorPrefix (draws signerKeyName) session signerKeyName) := rfl
    rw [unfolded, ih]
    simp [performRPC]

/-- What a reaction of one remote call can make of the container and of its session. -/
inductive Move (initiatorPrefix : Name) (container : MultipartySchemaContainer PublicKey)
    (session : Session) (index : Nat) (perSigner : MultiSignPerSignerState) :
    Reaction → MultipartySchemaContainer PublicKey → Session → Prop where
  /-- The remote call ends, and the session does not learn of it. -/
  | abandoned (paraPrefixRegistered : Bool) :
      Move initiatorPrefix container session index perSigner (.abandon paraPrefixRegistered)
        container (session.closeRpc index { perSigner with paraPrefixRegistered })
  /-- The remote call goes on. -/
  | proceeded (other : MultiSignPerSignerState) (tpm : List Buffer) (put : List Data) :
      Move initiatorPrefix container session index perSigner (.proceed other tpm put) container
        (session.setRpc index other)
  /-- A signature is stored, and others are missing. -/
  | collected {piece : Buffer}
      (missing : session.global.fetchedSignatures.length + 1 ≠ session.global.signers.length) :
      Move initiatorPrefix container session index perSigner (.collect piece) container
        { session.closeRpc index perSigner with
          global := { session.global with
            fetchedSignatures := session.global.fetchedSignatures ++ [piece] }
          history := session.history ++ [.collected index perSigner.signerKeyName piece] }
  /-- The last signature is stored, and the aggregate is handed over. -/
  | finished {piece value nonce : Buffer} {aggSig tempSig : Signature} {data info : Data}
      (enough : session.global.fetchedSignatures.length + 1 = session.global.signers.length)
      (aggregated : libs.bls.ndnBLSAggregateSignature aggSig tempSig
        (session.global.fetchedSignatures ++ [piece]) = .ok value)
      (signed : data = { session.global.toBeSigned with signatureValue := some value })
      (announced : info = libs.keyChain.signWithKey session.global.signingKeyName nonce
        (session.global.signInfo.setContent libs.tlv
          (MpsSignerList.wireEncode libs.tlv session.global.signers))) :
      Move initiatorPrefix container session index perSigner (.collect piece) container
        { session.closeRpc index perSigner with
          global := { session.global with
            fetchedSignatures := session.global.fetchedSignatures ++ [piece]
            toBeSigned := data
            signInfo := info }
          history := session.history ++
            [.collected index perSigner.signerKeyName piece] ++ [.successCb data info] }
  /-- The signer is lost and no replacement is found. -/
  | failed {reason text : String}
      (needed : ¬ container.Dispensable session.global.schema session.global.signers
        perSigner.signerKeyName) :
      Move initiatorPrefix container session index perSigner (.unavailable reason)
        (container.markUnavailable perSigner.signerKeyName)
        { session.closeRpc index perSigner with
          history := session.history ++
            [.onUnavailableSigner index perSigner.signerKeyName] ++ [.failureCb text] }
  /-- The signer is lost, and the session goes on with a renewed list. -/
  | replaced {reason : String} {newSigners diffSigners : List Name} (draws : Name → RpcDraw)
      (renews : container.Renews session.global.schema session.global.signers
        perSigner.signerKeyName newSigners diffSigners) :
      Move initiatorPrefix container session index perSigner (.unavailable reason)
        (container.markUnavailable perSigner.signerKeyName)
        { global := { session.global with signers := newSigners }
          rpcs := (session.closeRpc index perSigner).rpcs ++ diffSigners.map fun signerKeyName =>
            newRpc libs initiatorPrefix session.global.toBeSigned session.global.signingKeyName
              signerKeyName (draws signerKeyName)
          history := session.history ++ [.onUnavailableSigner index perSigner.signerKeyName] ++
            diffSigners.map .performRPC }

end Session

/-- Which remote calls a reaction can come from. -/
def Reaction.Fits (perSigner : MultiSignPerSignerState) : Reaction → Prop
  | .abandon _ | .collect _ | .unavailable _ => perSigner.live = true
  | .proceed other _ _ =>
    other.signerKeyName = perSigner.signerKeyName ∧ other.live = perSigner.live
  | .stop _ => True

/-- A parameter packet encrypted and signed under the keys of a remote call. -/
def EncryptedUnder (libs : Libraries SecretKey PublicKey Signature) (keys : SessionKeys)
    (para : Data) : Prop :=
  ∃ (base : Data) (random : Buffer), para = libs.keyChain.signWithHmac keys.hmacKey
    (base.setContent libs.tlv (encodeBlockWithAesGcm128 libs.tlv libs.ssl Tlv.contentType
      keys.aesKey base.content random).wire)

/-- How a remote call can react to an event. -/
inductive Responds (libs : Libraries SecretKey PublicKey Signature) (tpm : List Buffer)
    (perSigner : MultiSignPerSignerState) (draw : Draw Signature) : RpcEvent → Reaction → Prop where
  /-- The acknowledgement is read, and the parameter packet is finalized under its keys. -/
  | acknowledged {ack para : Data} {pending : Interest} {reply : AckReply}
      (waits : perSigner.phase = .awaitingAck pending)
      (read : parseAckReply libs.tlv libs.ssl perSigner.ecdh draw.salt ack = .ok reply)
      (encrypted : EncryptedUnder libs reply.keys para) :
      Responds libs tpm perSigner draw (.data ack) (.proceed
        { perSigner with
          paraDataPromise := some para, aesKey := reply.keys.aesKey, hmacKey := reply.keys.hmacKey
          paraData := para, nextResultName := reply.resultName
          phase := .scheduled reply.resultAfter }
        (tpm.insert reply.keys.hmacKey) [])
  /-- The acknowledgement is not read. -/
  | unreadable {ack : Data} {pending : Interest} (waits : perSigner.phase = .awaitingAck pending)
      (failed : parseAckReply libs.tlv libs.ssl perSigner.ecdh draw.salt ack =
        .error .exception) :
      Responds libs tpm perSigner draw (.data ack) (.abandon perSigner.paraPrefixRegistered)
  | overrun {ack : Data} {pending : Interest} (waits : perSigner.phase = .awaitingAck pending)
      (failed : parseAckReply libs.tlv libs.ssl perSigner.ecdh draw.salt ack =
        .error .undefined) :
      Responds libs tpm perSigner draw (.data ack) (.stop .undefined)
  /-- The signer is still processing, and names the next result. -/
  | delayed {result : Data} {pending : Interest} {after : Nat}
      (waits : perSigner.phase = .awaitingResult pending)
      (names : (nextNameOf libs.tlv libs.ssl perSigner.aesKey result).isSome = true) :
      Responds libs tpm perSigner draw (.data result)
        (.proceed { perSigner with phase := .scheduled after } tpm [])
  /-- The signer has signed. -/
  | returned {result : Data} {pending : Interest} {piece : Buffer}
      (waits : perSigner.phase = .awaitingResult pending) :
      Responds libs tpm perSigner draw (.data result) (.collect piece)
  | refused {result : Data} {pending : Interest} {reason : String}
      (waits : perSigner.phase = .awaitingResult pending) :
      Responds libs tpm perSigner draw (.data result) (.unavailable reason)
  /-- The result does not verify, or is not read. -/
  | discarded {result : Data} {pending : Interest}
      (waits : perSigner.phase = .awaitingResult pending) :
      Responds libs tpm perSigner draw (.data result) (.abandon perSigner.paraPrefixRegistered)
  | corrupted {result : Data} {pending : Interest}
      (waits : perSigner.phase = .awaitingResult pending) :
      Responds libs tpm perSigner draw (.data result) (.stop .undefined)
  | nacked {reason : String} (live : perSigner.live = true) :
      Responds libs tpm perSigner draw .nack (.unavailable reason)
  | timedOut {reason : String} (live : perSigner.live = true) :
      Responds libs tpm perSigner draw .timeout (.unavailable reason)
  /-- The result is asked for, and the parameter packet is answered no longer. -/
  | fetches {after : Nat} {pending : Interest} {digest : Buffer}
      (waits : perSigner.phase = .scheduled after)
      (signable : perSigner.nextResultName.signable = true)
      (named : pending.name = perSigner.nextResultName.setDigest digest) :
      Responds libs tpm perSigner draw .fetchResult (.proceed
        { perSigner with paraPrefixRegistered := false, phase := .awaitingResult pending } tpm [])
  /-- No signed Interest can have the name of the result. -/
  | unnameable {after : Nat} (waits : perSigner.phase = .scheduled after)
      (unsignable : perSigner.nextResultName.signable = false) :
      Responds libs tpm perSigner draw .fetchResult (.abandon false)
  | answers {para : Data} (registered : perSigner.paraPrefixRegistered = true)
      (promised : perSigner.paraDataPromise = some para) :
      Responds libs tpm perSigner draw .paraInterest (.proceed perSigner tpm [para])
  /-- The promise was broken when the remote call ended. -/
  | broken (registered : perSigner.paraPrefixRegistered = true)
      (unset : perSigner.paraDataPromise = none) (ended : perSigner.phase = .ended) :
      Responds libs tpm perSigner draw .paraInterest (.proceed perSigner tpm [])
  | blocks (registered : perSigner.paraPrefixRegistered = true)
      (unset : perSigner.paraDataPromise = none) (waits : perSigner.phase ≠ .ended) :
      Responds libs tpm perSigner draw .paraInterest (.stop .blocked)

section Reactions

variable {libs : Libraries SecretKey PublicKey Signature} {tpm : List Buffer}
variable {perSigner : MultiSignPerSignerState} {draw : Draw Signature}

/-- A remote call that waits for an acknowledgement reads it or not. -/
theorem ackCallback_responds {pending : Interest}
    (waits : perSigner.phase = .awaitingAck pending) (ack : Data) :
    Responds libs tpm perSigner draw (.data ack) (ackCallback libs tpm perSigner draw ack) := by
  -- The reading has three outcomes, as the code has three ways on.
  unfold ackCallback
  cases read : parseAckReply libs.tlv libs.ssl perSigner.ecdh draw.salt ack with
  | error fault =>
    cases fault with
    | exception => exact .unreadable waits read
    | undefined => exact .overrun waits read
  | ok reply => exact .acknowledged waits read ⟨perSigner.paraData, draw.random, rfl⟩

/-- A remote call that waits for a result takes it as a signature, an error code, or another time
to wait, if it reads it at all. -/
theorem resultCallback_responds {pending : Interest}
    (waits : perSigner.phase = .awaitingResult pending) (result : Data) :
    Responds libs tpm perSigner draw (.data result) (resultCallback libs tpm perSigner result) := by
  -- The answers that can be read are a signature, an error code, or a time to wait.
  have read : ∀ reaction, readResult libs tpm perSigner result = .ok reaction →
      Responds libs tpm perSigner draw (.data result) reaction := by
    intro reaction same
    simp only [readResult, Bind.bind, Except.bind] at same
    repeat' split at same
    all_goals first
      | cases same; done
      | cases same; exact .returned waits
      | cases same; exact .refused waits
      | cases same; exact .delayed waits (by simp_all [nextNameOf, Except.toOption])
  unfold resultCallback
  split
  · exact .discarded waits
  · cases parsed : readResult libs tpm perSigner result with
    | error fault =>
      cases fault with
      | exception => exact .discarded waits
      | undefined => exact .corrupted waits
    | ok reaction => exact read reaction parsed

/-- While the acknowledgement is awaited, Data that is asked for is taken for it. -/
theorem react_awaitingAck {signingKeyName : Name} {pending : Interest} {ack : Data}
    (waits : perSigner.phase = .awaitingAck pending) (asked : pending.matchesData ack = true) :
    react libs tpm signingKeyName perSigner draw (.data ack) =
      some (ackCallback libs tpm perSigner draw ack) := by
  simp only [react, waits, asked, if_true]

/-- While a result is awaited, Data that is asked for is taken for it. -/
theorem react_awaitingResult {signingKeyName : Name} {pending : Interest} {result : Data}
    (waits : perSigner.phase = .awaitingResult pending)
    (asked : pending.matchesData result = true) :
    react libs tpm signingKeyName perSigner draw (.data result) =
      some (resultCallback libs tpm perSigner result) := by
  simp only [react, waits, asked, if_true]

/-- Data makes a remote call react only where it is asked for. -/
theorem asked_of_react {signingKeyName : Name} {pending : Interest} {data : Data}
    {reaction : Reaction}
    (waits : perSigner.phase = .awaitingAck pending ∨ perSigner.phase = .awaitingResult pending)
    (reacted : react libs tpm signingKeyName perSigner draw (.data data) = some reaction) :
    pending.matchesData data = true := by
  rcases waits with waits | waits
  all_goals
    simp only [react, waits, Option.ite_none_right_eq_some] at reacted
    exact reacted.1

/-- The Interest for a result has its name, with a digest at the end. -/
theorem resultFetchInterest_eq_ok {signingKeyName nextResultName : Name} {nonce : Buffer}
    {resultFetchInt : Interest}
    (made : resultFetchInterest libs signingKeyName nonce nextResultName = .ok resultFetchInt) :
    nextResultName.signable = true ∧ resultFetchInt.canBePrefix = true ∧
      ∃ digest, resultFetchInt.name = nextResultName.setDigest digest := by
  -- First an Interest is made of the name, and then it is signed.
  unfold resultFetchInterest at made
  cases fresh : Interest.ofName nextResultName with
  | error fault => simp [fresh] at made
  | ok interest =>
    obtain ⟨few, rfl⟩ := Interest.ofName_eq_ok_iff.mp fresh
    simp only [fresh] at made
    have signs := (libs.keyChain.makeSignedInterest_isOk).mp ⟨_, made⟩
    simp only [KeyChain.makeSignedInterest] at made
    split at made
    · cases made
      refine ⟨?_, rfl, _, rfl⟩
      simp only [Name.signable, Bool.or_eq_true, Bool.and_eq_true, decide_eq_true_eq]
      rcases signs with none | ends
      · exact .inl none
      · exact (Nat.lt_or_ge nextResultName.digests 1).imp (by omega) fun one => ⟨by omega, ends⟩
    · cases made

/-- There is one for exactly the names that a signed Interest can have. -/
theorem resultFetchInterest_isOk (libs : Libraries SecretKey PublicKey Signature)
    (signingKeyName : Name) (nonce : Buffer) {nextResultName : Name} :
    (∃ resultFetchInt, resultFetchInterest libs signingKeyName nonce nextResultName =
        .ok resultFetchInt) ↔ nextResultName.signable = true := by
  constructor
  · rintro ⟨resultFetchInt, made⟩
    exact (resultFetchInterest_eq_ok made).1
  · intro signable
    simp only [Name.signable, Bool.or_eq_true, Bool.and_eq_true, decide_eq_true_eq] at signable
    have few : nextResultName.digests ≤ 1 := by omega
    unfold resultFetchInterest
    rw [Interest.ofName_eq_ok_iff.mpr ⟨few, rfl⟩]
    exact (libs.keyChain.makeSignedInterest_isOk).mpr (signable.imp_right And.right)

/-- The scheduled callback gives up exactly the names that no signed Interest can have. -/
theorem resultFetchCallback_of_unsignable {signingKeyName : Name} {nonce : Buffer}
    (unsignable : perSigner.nextResultName.signable = false) :
    resultFetchCallback libs tpm perSigner signingKeyName nonce = .abandon false := by
  unfold resultFetchCallback
  cases made : resultFetchInterest libs signingKeyName nonce perSigner.nextResultName with
  | error fault => rfl
  | ok resultFetchInt =>
    rw [(resultFetchInterest_eq_ok made).1] at unsignable
    cases unsignable

/-- It asks for the result of a name without a digest, which gets one at its end. -/
theorem resultFetchCallback_of_plain (tpm : List Buffer) (signingKeyName : Name) (nonce : Buffer)
    (plain : perSigner.nextResultName.digests = 0) :
    ∃ resultFetchInt digest, resultFetchInt.name = perSigner.nextResultName.append digest ∧
      resultFetchCallback libs tpm perSigner signingKeyName nonce =
        .proceed { perSigner with
          paraPrefixRegistered := false, phase := .awaitingResult resultFetchInt } tpm [] := by
  have signable : perSigner.nextResultName.signable = true := by
    simp [Name.signable, plain]
  obtain ⟨resultFetchInt, made⟩ :=
    (resultFetchInterest_isOk libs signingKeyName nonce).mpr signable
  obtain ⟨-, -, digest, named⟩ := resultFetchInterest_eq_ok made
  rw [Name.setDigest_of_plain plain] at named
  refine ⟨resultFetchInt, _, named, ?_⟩
  simp only [resultFetchCallback, made]

/-- A remote call whose result is due asks for it, or the name of the result makes the code
throw. -/
theorem resultFetchCallback_responds {after : Nat} (waits : perSigner.phase = .scheduled after)
    (signingKeyName : Name) (nonce : Buffer) :
    Responds libs tpm perSigner draw .fetchResult
      (resultFetchCallback libs tpm perSigner signingKeyName nonce) := by
  -- Whether there is an Interest for the result is decided by its name.
  cases signable : perSigner.nextResultName.signable with
  | false =>
    rw [resultFetchCallback_of_unsignable signable]
    exact .unnameable waits signable
  | true =>
    obtain ⟨resultFetchInt, made⟩ :=
      (resultFetchInterest_isOk libs signingKeyName nonce).mpr signable
    obtain ⟨-, -, digest, named⟩ := resultFetchInterest_eq_ok made
    simp only [resultFetchCallback, made]
    exact .fetches waits signable named

/-- The scheduled callback fires. -/
theorem react_scheduled {signingKeyName : Name} {after : Nat}
    (waits : perSigner.phase = .scheduled after) :
    react libs tpm signingKeyName perSigner draw .fetchResult =
      some (resultFetchCallback libs tpm perSigner signingKeyName draw.nonce) := by
  simp only [react, waits]

/-- With the promise kept, an Interest for the parameter packet is answered. -/
theorem react_promised {signingKeyName : Name} {para : Data}
    (registered : perSigner.paraPrefixRegistered = true)
    (promised : perSigner.paraDataPromise = some para) :
    react libs tpm signingKeyName perSigner draw .paraInterest =
      some (.proceed perSigner tpm [para]) := by
  simp only [react, registered, if_true, paraInterestCallback, promised]

/-- Every reaction to an event is one of these. -/
theorem react_responds {signingKeyName : Name} {event : RpcEvent} {reaction : Reaction}
    (reacted : react libs tpm signingKeyName perSigner draw event = some reaction) :
    Responds libs tpm perSigner draw event reaction := by
  -- The handler depends on the event and on what the remote call waits for.
  cases event with
  | data data =>
    cases phase : perSigner.phase with
    | awaitingAck pending =>
      simp only [react, phase, Option.ite_none_right_eq_some, Option.some.injEq] at reacted
      exact reacted.2 ▸ ackCallback_responds phase data
    | awaitingResult pending =>
      simp only [react, phase, Option.ite_none_right_eq_some, Option.some.injEq] at reacted
      exact reacted.2 ▸ resultCallback_responds phase data
    | scheduled after => simp [react, phase] at reacted
    | ended => simp [react, phase] at reacted
  | nack =>
    cases phase : perSigner.phase <;> simp only [react, phase, Option.some.injEq,
      reduceCtorEq] at reacted
    all_goals
      subst reacted
      exact .nacked (by simp [MultiSignPerSignerState.live, phase])
  | timeout =>
    cases phase : perSigner.phase <;> simp only [react, phase, Option.some.injEq,
      reduceCtorEq] at reacted
    all_goals
      subst reacted
      exact .timedOut (by simp [MultiSignPerSignerState.live, phase])
  | fetchResult =>
    cases phase : perSigner.phase with
    | scheduled after =>
      rw [react_scheduled phase, Option.some.injEq] at reacted
      exact reacted ▸ resultFetchCallback_responds phase signingKeyName draw.nonce
    | _ => simp [react, phase] at reacted
  | paraInterest =>
    simp only [react, paraInterestCallback] at reacted
    split at reacted
    · rename_i registered
      cases promised : perSigner.paraDataPromise with
      | some para =>
        simp only [promised, Option.some.injEq] at reacted
        exact reacted ▸ .answers registered promised
      | none =>
        -- Without a promise it matters whether somebody could still keep it.
        cases phase : perSigner.phase with
        | ended =>
          simp only [promised, phase, Option.some.injEq] at reacted
          exact reacted ▸ .broken registered promised phase
        | _ =>
          simp only [promised, phase, Option.some.injEq] at reacted
          exact reacted ▸ .blocks registered promised (by simp [phase])
    · cases reacted

/-- Only a remote call that waits for something ends or hands over a signature. -/
theorem react_fits {signingKeyName : Name} {event : RpcEvent} {reaction : Reaction}
    (reacted : react libs tpm signingKeyName perSigner draw event = some reaction) :
    reaction.Fits perSigner := by
  -- The answers of a waiting remote call, the losses, the promise, and the ends of the thread.
  cases react_responds reacted with
  | acknowledged waits | unreadable waits | delayed waits | returned waits | refused waits
    | discarded waits | fetches waits | unnameable waits =>
    simp [Reaction.Fits, MultiSignPerSignerState.live, waits]
  | nacked live => exact live
  | timedOut live => exact live
  | answers | broken => exact ⟨rfl, rfl⟩
  | overrun | corrupted | blocks => trivial

end Reactions

/-- Some signatures have an aggregate. -/
theorem Bls.ndnBLSAggregateSignature_concat (bls : Bls SecretKey PublicKey Signature)
    (aggSig tempSig : Signature) (pieces : List Buffer) (last : Buffer) :
    ∃ value, bls.ndnBLSAggregateSignature aggSig tempSig (pieces ++ [last]) = .ok value := by
  cases pieces with
  | nil => exact ⟨_, rfl⟩
  | cons first rest => exact ⟨_, rfl⟩

namespace Session

/-- A returned signature is stored, or it is stored and completes the session. -/
theorem collect_move (libs : Libraries SecretKey PublicKey Signature) (initiatorPrefix : Name)
    (container : MultipartySchemaContainer PublicKey) (session : Session) (index : Nat)
    (perSigner : MultiSignPerSignerState) (aggSig tempSig : Signature) (nonce piece : Buffer) :
    ∃ after, (session.closeRpc index perSigner).collect libs aggSig tempSig nonce index
        perSigner.signerKeyName piece = .ok after ∧
      Move libs initiatorPrefix container session index perSigner (.collect piece) container
        after := by
  -- The signatures are not empty, so their aggregation does not fail.
  obtain ⟨value, aggregated⟩ := libs.bls.ndnBLSAggregateSignature_concat aggSig tempSig
    session.global.fetchedSignatures piece
  by_cases enough : session.global.fetchedSignatures.length + 1 = session.global.signers.length
  · have announced (info : Data) : libs.keyChain.signWithKey session.global.signingKeyName nonce
        info = libs.keyChain.signWithKey session.global.signingKeyName nonce info := rfl
    refine ⟨_, ?_, .finished enough aggregated rfl (announced _)⟩
    simp only [collect, finish, record, closeRpc, setRpc, List.length_append,
      List.length_singleton, enough, if_true, aggregated, Bind.bind, Except.bind]
  · refine ⟨_, ?_, .collected enough⟩
    simp only [collect, record, closeRpc, setRpc, List.length_append, List.length_singleton,
      enough, if_false]

/-- A lost signer is recorded, and the session fails or goes on with a renewed list. -/
theorem onUnavailableSigner_move (libs : Libraries SecretKey PublicKey Signature)
    (initiatorPrefix : Name) (draws : Name → RpcDraw)
    (container : MultipartySchemaContainer PublicKey) (session : Session) (index : Nat)
    (perSigner : MultiSignPerSignerState) (reason : String) :
    Move libs initiatorPrefix container session index perSigner (.unavailable reason)
      ((session.closeRpc index perSigner).onUnavailableSigner libs initiatorPrefix draws container
        reason index perSigner.signerKeyName).1
      ((session.closeRpc index perSigner).onUnavailableSigner libs initiatorPrefix draws container
        reason index perSigner.signerKeyName).2 := by
  -- What the container does is taken from its own lemma.
  obtain ⟨marked, outcome⟩ := container.replaceSigner_cases session.global.schema
    session.global.signers perSigner.signerKeyName
  generalize returned : container.replaceSigner session.global.signers perSigner.signerKeyName
    session.global.schema = result at marked outcome
  obtain ⟨renewedContainer, newSigners, diffSigners⟩ := result
  dsimp only at marked outcome
  subst marked
  rcases outcome with ⟨nothing, needed⟩ | renews
  · -- Nobody new is found, so the session keeps its list and reports the failure.
    cases nothing
    have failed : (session.closeRpc index perSigner).onUnavailableSigner libs initiatorPrefix draws
        container reason index perSigner.signerKeyName =
        (container.markUnavailable perSigner.signerKeyName,
          { session.closeRpc index perSigner with
            history := session.history ++
              [.onUnavailableSigner index perSigner.signerKeyName] ++ [.failureCb
                (reason ++ " And we cannot find replacements for the unavailable signer")] }) := by
      simp [onUnavailableSigner, record, closeRpc, setRpc, returned]
    rw [failed]
    exact .failed needed
  · -- The renewed list is not empty, so remote calls to its new signers start.
    have nonempty := renews.nonempty
    have replaced : (session.closeRpc index perSigner).onUnavailableSigner libs initiatorPrefix
        draws container reason index perSigner.signerKeyName =
        (container.markUnavailable perSigner.signerKeyName,
          { global := { session.global with signers := newSigners }
            rpcs := (session.closeRpc index perSigner).rpcs ++ diffSigners.map
              fun signerKeyName => newRpc libs initiatorPrefix session.global.toBeSigned
                session.global.signingKeyName signerKeyName (draws signerKeyName)
            history := session.history ++
              [.onUnavailableSigner index perSigner.signerKeyName] ++
                diffSigners.map .performRPC }) := by
      simp [onUnavailableSigner, record, closeRpc, setRpc, returned, nonempty, performRPCs_eq]
    rw [replaced]
    exact .replaced draws renews

end Session

namespace MPSInitiator

/-- The initiator after an event, if the event can happen. -/
def next (libs : Libraries SecretKey PublicKey Signature) (initiator : MPSInitiator PublicKey)
    (event : Event Signature) : Option (MPSInitiator PublicKey) :=
  (initiator.step libs event).map Prod.fst

/-- What an event can make of the initiator. -/
inductive Step (libs : Libraries SecretKey PublicKey Signature)
    (initiator : MPSInitiator PublicKey) : Event Signature → MPSInitiator PublicKey → Prop where
  /-- No selection satisfies the schema, and `multiPartySign` throws. -/
  | refused {unsignedData : Data} {schema : MultipartySchema} {signingKeyName : Name}
      {keyLocatorRandomness : Nat} {rpcs : Name → RpcDraw} :
      Step libs initiator
        (.multiPartySign unsignedData schema signingKeyName keyLocatorRandomness rpcs) initiator
  /-- A session starts with the selected signers. -/
  | started {unsignedData : Data} {schema : MultipartySchema} {signingKeyName : Name}
      {keyLocatorRandomness : Nat} {rpcs : Name → RpcDraw} {signers : List Name}
      (selected : initiator.schemaContainer.getAvailableSigners schema = .ok signers) :
      Step libs initiator
        (.multiPartySign unsignedData schema signingKeyName keyLocatorRandomness rpcs)
        { initiator with sessions := initiator.sessions ++ [initiator.startSession libs
            unsignedData schema signingKeyName keyLocatorRandomness rpcs signers] }
  | reset : Step libs initiator .resetCachedUnavailableSigners
      { initiator with
        schemaContainer := initiator.schemaContainer.resetCachedUnavailableSigners }
  /-- The thread never gets past a callback. -/
  | stopped {sessionIndex index : Nat} {session : Session} {perSigner : MultiSignPerSignerState}
      {event : RpcEvent} {draw : Draw Signature} {liveness : Liveness}
      (located : initiator.sessions[sessionIndex]? = some session)
      (found : session.rpcs[index]? = some perSigner)
      (reacted : react libs initiator.tpm session.global.signingKeyName perSigner draw event =
        some (.stop liveness)) :
      Step libs initiator (.rpc sessionIndex index event draw) { initiator with liveness }
  /-- One session moves. -/
  | moved {sessionIndex index : Nat} {session renewed : Session}
      {perSigner : MultiSignPerSignerState} {event : RpcEvent} {draw : Draw Signature}
      {reaction : Reaction} {after : MPSInitiator PublicKey}
      (located : initiator.sessions[sessionIndex]? = some session)
      (found : session.rpcs[index]? = some perSigner)
      (reacted : react libs initiator.tpm session.global.signingKeyName perSigner draw event =
        some reaction)
      (move : session.Move libs initiator.initiatorPrefix initiator.schemaContainer index
        perSigner reaction after.schemaContainer renewed)
      (sessions : after.sessions = initiator.sessions.set sessionIndex renewed) :
      Step libs initiator (.rpc sessionIndex index event draw) after

/-- Every event is answered by one of the steps. -/
theorem next_step {libs : Libraries SecretKey PublicKey Signature}
    {initiator after : MPSInitiator PublicKey} {event : Event Signature}
    (taken : initiator.next libs event = some after) : Step libs initiator event after := by
  obtain ⟨⟨result, put⟩, stepped, same⟩ := Option.map_eq_some_iff.mp taken
  cases same
  simp only [step] at stepped
  -- A process that has ended or hangs handles no event.
  split at stepped
  · cases stepped
  cases event with
  | multiPartySign unsignedData schema signingKeyName keyLocatorRandomness rpcs =>
    dsimp only at stepped
    split at stepped
    · cases stepped
      exact .refused
    · cases stepped
      exact .started ‹_›
  | resetCachedUnavailableSigners =>
    cases stepped
    exact .reset
  | rpc sessionIndex index event draw =>
    obtain ⟨session, located, stepped⟩ := Option.bind_eq_some_iff.mp stepped
    obtain ⟨perSigner, found, stepped⟩ := Option.bind_eq_some_iff.mp stepped
    obtain ⟨reaction, reacted, stepped⟩ := Option.bind_eq_some_iff.mp stepped
    -- What the session does with a reaction is one of its moves.
    cases reaction with
    | abandon paraPrefixRegistered =>
      cases stepped
      exact .moved located found reacted (.abandoned paraPrefixRegistered) rfl
    | proceed other tpm put =>
      cases stepped
      exact .moved located found reacted (.proceeded other tpm put) rfl
    | collect piece =>
      obtain ⟨renewed, collected, move⟩ := Session.collect_move libs initiator.initiatorPrefix
        initiator.schemaContainer session index perSigner draw.aggSig draw.tempSig draw.nonce piece
      simp only [act] at stepped
      rw [show session.setRpc index { perSigner with phase := .ended } =
        session.closeRpc index perSigner from rfl, collected] at stepped
      cases stepped
      exact .moved located found reacted move rfl
    | unavailable reason =>
      have move := Session.onUnavailableSigner_move libs initiator.initiatorPrefix draw.rpcs
        initiator.schemaContainer session index perSigner reason
      cases stepped
      exact .moved located found reacted move rfl
    | stop liveness =>
      cases stepped
      exact .stopped located found reacted

end MPSInitiator

end NdnMps
