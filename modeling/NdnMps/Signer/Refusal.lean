import NdnMps.System.Agreement

/-! How a sign request is answered: which requests a signer refuses, which ones make it throw, and
what becomes of a refusal on its way to the initiator. -/

namespace NdnMps

variable {SecretKey PublicKey Signature : Type}

/-- The parameters of a sign request are read, or an exception is thrown. -/
theorem parseSignRequestPayload_onlyThrows (tlv : Tlv) (interest : Interest) :
    OnlyThrows (parseSignRequestPayload tlv interest) := by
  -- The readers follow one another as in the code.
  refine (tlv.elements_onlyThrows _).bind fun blocks => ?_
  refine (getBlock_onlyThrows blocks _).bind fun nameBlock => ?_
  refine (tlv.blockFromValue_onlyThrows nameBlock).bind fun nameValue => ?_
  refine (tlv.nameOf_onlyThrows nameValue).bind fun parameterDataName => ?_
  exact (getBlock_onlyThrows blocks _).bind fun ecdhBlock => .ok _

namespace SignerOutput

/-- Whether an output is the acknowledgement of a sign request. -/
def isAck : SignerOutput → Bool
  | .ack _ => true
  | .fetch _ | .result _ _ => false

end SignerOutput

namespace BLSSigner

section Statements

variable (libs : Libraries SecretKey PublicKey Signature) (signer : BLSSigner SecretKey)

/-- A sign request has passed the application's check and the check of its digest, and its
parameters are the name of a packet and a peer's public key. -/
def Readable (interest : Interest) (parameterDataName : Name) (peerPubKey : Buffer) : Prop :=
  signer.verifySignRequest interest = true ∧
    libs.keyChain.isParametersDigestValid interest = true ∧
    parseSignRequestPayload libs.tlv interest = .ok (parameterDataName, peerPubKey)

/-- The signer's own key and a peer's public key have a secret, from which the request's keys are
derived. -/
def Derivable (draw : RequestDraw) (peerPubKey : Buffer) : Prop :=
  ∃ dhSecret, libs.ssl.ecdhDerive draw.ecdh peerPubKey = some dhSecret ∧
    (libs.ssl.hkdf dhSecret draw.salt 48).isSome = true

/-- What a readable request carries can be processed: its keys can be derived, and an Interest can
be expressed for its parameter packet. -/
def Processable (draw : RequestDraw) (parameterDataName : Name) (peerPubKey : Buffer) : Prop :=
  Derivable libs draw peerPubKey ∧
    libs.tlv.Expressible parameterDataName (some signerTimeout)

/-- An outcome is reached without an exception: a request that is accepted is also followed up. -/
def FollowedUp (outcome : Data ⊕ Accepted) : Prop :=
  ∀ accepted, outcome = .inr accepted → ∃ fetchInterest, accepted.fetch = .ok fetchInterest

/-- A sign request does not make the signer throw, is refused unless it can be processed, and is
acknowledged once whatever the signer is doing. -/
def AnswersOnce (interest : Interest) (draw : RequestDraw) : Prop :=
  (∃ outcome, signer.onSignRequest libs interest draw = .ok outcome ∧ FollowedUp outcome ∧
    ((¬ ∃ parameterDataName peerPubKey,
        signer.Readable libs interest parameterDataName peerPubKey ∧
          Processable libs draw parameterDataName peerPubKey) →
      outcome = .inl (signer.refuse libs interest))) ∧
  ∀ signerState, ∃ after outputs,
    signer.step libs signerState (.signRequest interest draw) = some (after, outputs) ∧
      outputs.countP SignerOutput.isAck = 1

end Statements

variable {libs : Libraries SecretKey PublicKey Signature} {signer : BLSSigner SecretKey}
  {interest : Interest} {draw : RequestDraw}

/-- A request that is not readable is refused. -/
theorem onSignRequest_unreadable (draw : RequestDraw)
    (unreadable : ∀ parameterDataName peerPubKey,
      ¬ signer.Readable libs interest parameterDataName peerPubKey) :
    signer.onSignRequest libs interest draw = .ok (.inl (signer.refuse libs interest)) := by
  -- The checks one by one, in the order of the code.
  unfold onSignRequest
  cases verified : signer.verifySignRequest interest with
  | false => simp
  | true =>
    cases digest : libs.keyChain.isParametersDigestValid interest with
    | false => simp
    | true =>
      cases parsed : parseSignRequestPayload libs.tlv interest with
      | error fault =>
        -- The parameters are read inside a `try` block.
        rw [parseSignRequestPayload_onlyThrows libs.tlv interest fault parsed]
        simp
      | ok payload => exact absurd ⟨verified, digest, parsed⟩ (unreadable payload.1 payload.2)

/-- A readable request is accepted where the keys can be derived, and what it then fetches is the
packet that the request names, if an Interest can be expressed for it. -/
theorem onSignRequest_derivable {parameterDataName : Name} {peerPubKey : Buffer}
    (readable : signer.Readable libs interest parameterDataName peerPubKey)
    (derivable : Derivable libs draw peerPubKey) :
    ∃ accepted, signer.onSignRequest libs interest draw = .ok (.inr accepted) ∧
      ((∃ fetchInterest, accepted.fetch = .ok fetchInterest) ↔
        libs.tlv.Expressible parameterDataName (some signerTimeout)) := by
  -- Each check and each derivation succeeds, so the code runs through.
  obtain ⟨verified, digest, parsed⟩ := readable
  obtain ⟨dhSecret, derived, expanded⟩ := derivable
  obtain ⟨aesAndHmac, expanded⟩ := Option.isSome_iff_exists.mp expanded
  simp only [onSignRequest, verified, digest, parsed, derived, deriveKeys, expanded, Bind.bind,
    Except.bind, Bool.not_true, Bool.or_self, Bool.false_eq_true, if_false, Except.ok.injEq,
    Sum.inr.injEq, exists_eq_left']
  -- Only the Interest is left.
  simp only [libs.tlv.expressInterest_eq_ok_iff, exists_and_left, exists_eq, and_true]

/-- A readable request makes the signer throw where the keys cannot be derived. -/
theorem onSignRequest_underivable {parameterDataName : Name} {peerPubKey : Buffer}
    (readable : signer.Readable libs interest parameterDataName peerPubKey)
    (underivable : ¬ Derivable libs draw peerPubKey) :
    signer.onSignRequest libs interest draw = .error .exception := by
  obtain ⟨verified, digest, parsed⟩ := readable
  -- The key agreement comes after the `try` block, and either of its two parts can throw.
  cases derived : libs.ssl.ecdhDerive draw.ecdh peerPubKey with
  | none => simp [onSignRequest, verified, digest, parsed, derived]
  | some dhSecret =>
    cases expanded : libs.ssl.hkdf dhSecret draw.salt 48 with
    | none =>
      simp [onSignRequest, verified, digest, parsed, derived, deriveKeys, expanded, Bind.bind,
        Except.bind]
    | some aesAndHmac => exact absurd ⟨dhSecret, derived, by rw [expanded]; rfl⟩ underivable

/-- A step that accepts a request puts one acknowledgement on the face. -/
theorem countP_isAck_accepted (accepted : Accepted) :
    (.ack accepted.ack :: accepted.fetch.toOption.toList.map .fetch :
      List SignerOutput).countP SignerOutput.isAck = 1 := by
  cases accepted.fetch <;> rfl

/-- A sign request is answered once, without an exception, exactly where the keys can be derived
from a public key that is read from it and an Interest can be expressed for the name beside it:
the code that does so is outside the `try` block. -/
theorem answersOnce_iff (libs : Libraries SecretKey PublicKey Signature)
    (signer : BLSSigner SecretKey) (interest : Interest) (draw : RequestDraw) :
    signer.AnswersOnce libs interest draw ↔
      ∀ parameterDataName peerPubKey,
        signer.Readable libs interest parameterDataName peerPubKey →
          Processable libs draw parameterDataName peerPubKey := by
  constructor
  · -- A readable request without derivable keys has no outcome at all.
    intro ⟨⟨outcome, returned, followed, _⟩, _⟩ parameterDataName peerPubKey readable
    have derivable : Derivable libs draw peerPubKey := by
      by_contra underivable
      rw [onSignRequest_underivable readable underivable] at returned
      cases returned
    obtain ⟨accepted, accepts, fetches⟩ := onSignRequest_derivable readable derivable
    rw [accepts, Except.ok.injEq] at returned
    exact ⟨derivable, fetches.mp (followed accepted returned.symm)⟩
  · intro processable
    -- The request is accepted where it is readable, and refused where it is not.
    by_cases readable : ∃ parameterDataName peerPubKey,
        signer.Readable libs interest parameterDataName peerPubKey
    · obtain ⟨parameterDataName, peerPubKey, readable⟩ := readable
      obtain ⟨derivable, few⟩ := processable parameterDataName peerPubKey readable
      obtain ⟨accepted, returned, fetches⟩ := onSignRequest_derivable readable derivable
      refine ⟨⟨_, returned, fun other same => ?_, fun unprocessable => ?_⟩, fun signerState => ?_⟩
      · rw [← Sum.inr.inj same]
        exact fetches.mpr few
      · exact absurd ⟨_, _, readable, derivable, few⟩ unprocessable
      · exact ⟨_, _, by simp only [step, returned]; rfl, countP_isAck_accepted accepted⟩
    · have returned := onSignRequest_unreadable draw fun parameterDataName peerPubKey read =>
        readable ⟨parameterDataName, peerPubKey, read⟩
      have refused : FollowedUp (.inl (signer.refuse libs interest)) := by
        rintro accepted ⟨⟩
      refine ⟨⟨_, returned, refused, fun _ => rfl⟩, fun signerState => ?_⟩
      exact ⟨_, _, by simp only [step, returned]; rfl, rfl⟩

end BLSSigner

namespace Reference

/-- A sign request whose public key has no octets. -/
def keylessRequest : Interest :=
  libraries.keyChain.signInterest (.ofTexts ["i", "KEY", "1"]) [9]
    (prepareSignRequestInterest libraries.tlv (.ofTexts ["a"]) (.ofTexts ["i", "mps", "param", "5"])
      [])

end Reference

namespace BLSSigner

open Reference in
/-- A request with an empty public key passes every check and makes the signer throw, and nothing
is put on the face. -/
theorem onSignRequest_throws :
    anySigner.Readable libraries keylessRequest (.ofTexts ["i", "mps", "param", "5"]) [] ∧
      ¬ anySigner.AnswersOnce libraries keylessRequest signDraw ∧
      anySigner.onSignRequest libraries keylessRequest signDraw = .error .exception ∧
      anySigner.step libraries ⟨[], []⟩ (.signRequest keylessRequest signDraw) =
        some (⟨[], []⟩, []) := by
  have verified : anySigner.verifySignRequest keylessRequest = true := rfl
  have digest : libraries.keyChain.isParametersDigestValid keylessRequest = true := by
    decide +kernel
  have parsed : parseSignRequestPayload libraries.tlv keylessRequest =
      .ok (.ofTexts ["i", "mps", "param", "5"], []) := rfl
  have readable := (⟨verified, digest, parsed⟩ : anySigner.Readable libraries keylessRequest _ [])
  -- An empty public key has no secret with any key of the signer.
  have underivable : ¬ Derivable libraries signDraw [] := by
    rintro ⟨dhSecret, derived, -⟩
    cases derived
  have thrown := onSignRequest_underivable readable underivable
  refine ⟨readable, ?_, thrown, by simp only [step, thrown]⟩
  rintro ⟨⟨outcome, returned, -⟩, -⟩
  rw [thrown] at returned
  cases returned

end BLSSigner

/-- The reply code that `parseAckReply` reads first, as the text of the status element. -/
def ackCodeOf (tlv : Tlv) (data : Data) : Except Fault Buffer := do
  let blocks ← tlv.elements data.getContent
  let ackCode ← getBlock blocks Tlv.status
  .ok ackCode.value

/-- The initiator reads a reply code from an acknowledgement, and it is that of a rejection. -/
def RejectsWith (tlv : Tlv) (ack : Data) (code : ReplyCode) : Prop :=
  ackCodeOf tlv ack = .ok code.text ∧ code.text ≠ ReplyCode.processing.text

/-- An acknowledgement is a rejection for the initiator whatever else it carries. -/
theorem parseAckReply_of_rejectsWith {tlv : Tlv} {ack : Data} {code : ReplyCode}
    (rejects : RejectsWith tlv ack code) (ssl : Openssl) (ecdh array : Buffer) :
    parseAckReply tlv ssl ecdh array ack = .error .exception := by
  obtain ⟨read, other⟩ := rejects
  have processing : ReplyCode.processing.text = asciiBytes "102" := by decide +kernel
  rw [processing] at other
  unfold ackCodeOf at read
  unfold parseAckReply
  -- Both readers start with the same two steps.
  cases parsed : tlv.elements ack.getContent with
  | error fault => simp [parsed, Bind.bind, Except.bind] at read
  | ok blocks =>
    cases found : getBlock blocks Tlv.status with
    | error fault => simp [parsed, found, Bind.bind, Except.bind] at read
    | ok ackCode =>
      simp only [parsed, found, Bind.bind, Except.bind, Except.ok.injEq] at read
      simp [found, read, other, Bind.bind, Except.bind]

/-- Whatever its reply code, a refusal carries nothing. -/
theorem content_generateSignRequestAck {tlv : Tlv} {ssl : Openssl} {code : ReplyCode}
    (refusal : code ≠ .processing) (interestName selfPrefix : Name) (requestId : Nat)
    (salt selfPub aesKey random : Buffer) :
    (generateSignRequestAck tlv ssl interestName selfPrefix code requestId salt selfPub aesKey
      random).content = [] := by
  -- The code builds the content of the refusal without encoding it.
  simp [generateSignRequestAck, refusal, Data.setContent, Data.setFreshnessPeriod,
    BlockBuilder.wire, BlockBuilder.pushBack, BlockBuilder.ofType, Data.ofName]

namespace BLSSigner

variable {libs : Libraries SecretKey PublicKey Signature}

/-- A refusal carries nothing. -/
theorem content_refuse (signer : BLSSigner SecretKey) (interest : Interest) :
    (signer.refuse libs interest).content = [] := by
  unfold refuse Bls.ndnBLSSign
  exact content_generateSignRequestAck (by decide) _ _ _ _ _ _ _

/-- The only answer besides an acceptance is the refusal. -/
theorem onSignRequest_refused {signer : BLSSigner SecretKey} {interest : Interest}
    {draw : RequestDraw} {ack : Data}
    (refused : signer.onSignRequest libs interest draw = .ok (.inl ack)) :
    ack = signer.refuse libs interest := by
  by_cases readable : ∃ parameterDataName peerPubKey,
      signer.Readable libs interest parameterDataName peerPubKey
  · obtain ⟨parameterDataName, peerPubKey, readable⟩ := readable
    -- A readable request is accepted, or it makes the signer throw.
    by_cases derivable : Derivable libs draw peerPubKey
    · obtain ⟨accepted, returned, -⟩ := onSignRequest_derivable readable derivable
      rw [returned] at refused
      cases refused
    · rw [onSignRequest_underivable readable derivable] at refused
      cases refused
  · rw [onSignRequest_unreadable draw fun parameterDataName peerPubKey read =>
      readable ⟨parameterDataName, peerPubKey, read⟩] at refused
    exact (Sum.inl.inj (Except.ok.inj refused)).symm

/-- No refusal is read as a rejection: its status is not on the wire. -/
theorem refusal_unread (signer : BLSSigner SecretKey) {interest : Interest} {draw : RequestDraw}
    {ack : Data} (nothing : libs.tlv.parse [] = some [])
    (refused : signer.onSignRequest libs interest draw = .ok (.inl ack)) :
    ¬ RejectsWith libs.tlv ack .unauthorized := by
  intro ⟨read, _⟩
  rw [onSignRequest_refused refused] at read
  -- Without elements there is no status to be found.
  simp [ackCodeOf, Tlv.elements, Data.getContent, content_refuse, nothing, getBlock, Bind.bind,
    Except.bind] at read

end BLSSigner

namespace Reference

/-- A signer `/a` whose application rejects every request. -/
def rejectingSigner : BLSSigner Nat := { anySigner with verifySignRequest _ := false }

end Reference

namespace BLSSigner

open Reference in
/-- The refusal of a request is not read as a rejection. -/
theorem refusal_unread_rejectingSigner :
    ¬ RejectsWith libraries.tlv (rejectingSigner.refuse libraries signRequest) .unauthorized := by
  have refused : rejectingSigner.onSignRequest libraries signRequest signDraw =
      .ok (.inl (rejectingSigner.refuse libraries signRequest)) := rfl
  exact refusal_unread rejectingSigner rfl refused

open Reference in
/-- The acknowledgement of a rejected request cannot be decoded, and with its element encoded it
would read like one in progress. -/
theorem refusal_undecodable :
    rejectingSigner.onSignRequest libraries signRequest signDraw =
        .ok (.inl (rejectingSigner.refuse libraries signRequest)) ∧
      ackCodeOf libraries.tlv (rejectingSigner.refuse libraries signRequest) =
        .error .exception ∧
      ackCodeOf libraries.tlv ((Data.ofName signRequest.name).setContent libraries.tlv
        (((BlockBuilder.ofType Tlv.contentType).pushBack
          ⟨Tlv.status, ReplyCode.processing.text⟩).encode libraries.tlv).wire) =
        .ok ReplyCode.processing.text := by
  refine ⟨rfl, rfl, rfl⟩

end BLSSigner

end NdnMps
