import NdnMps.Initiator.Completion
import NdnMps.Initiator.RemoteCalls

/-! Whether the packet to be signed is only ever encrypted to the signer that was asked. -/

namespace NdnMps

variable {SecretKey PublicKey Signature : Type}

/-- A packet carries a BLS signature that verifies under the trusted key of a name. -/
def SignedByTrusted (libs : Libraries SecretKey PublicKey Signature)
    (trustedIds : TrustedIds PublicKey) (signerKeyName : Name) (data : Data) : Prop :=
  ∃ key, trustedIds.find signerKeyName = some key ∧
    ∀ indeterminate, libs.bls.ndnBLSVerify libs.tlv indeterminate key data = .ok true

/-- The parameter packet is encrypted under keys from an acknowledgement of the trusted signer. -/
def EncryptedToSigner (libs : Libraries SecretKey PublicKey Signature)
    (trustedIds : TrustedIds PublicKey) (past : List (Event Signature))
    (sessionIndex index : Nat) (perSigner : MultiSignPerSignerState) (para : Data) : Prop :=
  ∃ ack reply, Acknowledged libs past sessionIndex index perSigner.ecdh ack reply ∧
    SignedByTrusted libs trustedIds perSigner.signerKeyName ack ∧
    perSigner.aesKey = reply.keys.aesKey ∧ perSigner.hmacKey = reply.keys.hmacKey ∧
    EncryptedUnder libs reply.keys para

section Promises

variable {libs : Libraries SecretKey PublicKey Signature} {tpm : List Buffer}
variable {perSigner : MultiSignPerSignerState} {draw : Draw Signature}
variable {event : RpcEvent} {reaction : Reaction}

/-- An acknowledgement that is read leaves the keys and the packet encrypted under them. -/
theorem Responds.of_read {ack : Data} {pending : Interest} {reply : AckReply}
    (responds : Responds libs tpm perSigner draw (.data ack) reaction)
    (waits : perSigner.phase = .awaitingAck pending)
    (read : parseAckReply libs.tlv libs.ssl perSigner.ecdh draw.salt ack = .ok reply) :
    (reaction.leaves perSigner).signerKeyName = perSigner.signerKeyName ∧
      (reaction.leaves perSigner).ecdh = perSigner.ecdh ∧
      (reaction.leaves perSigner).aesKey = reply.keys.aesKey ∧
      (reaction.leaves perSigner).hmacKey = reply.keys.hmacKey ∧
      ∃ para, (reaction.leaves perSigner).paraDataPromise = some para ∧
        EncryptedUnder libs reply.keys para := by
  -- Every other case contradicts the phase or the reading.
  cases responds with
  | @acknowledged ack para other reply waits again encrypted =>
    cases read.symm.trans again
    exact ⟨rfl, rfl, rfl, rfl, para, rfl, encrypted⟩
  | unreadable other failed => cases read.symm.trans failed
  | overrun other failed => cases read.symm.trans failed
  | delayed other | returned other | refused other | discarded other | corrupted other =>
    cases waits.symm.trans other

/-- No promise is kept while an acknowledgement is awaited. -/
theorem Informed.unset_of_awaitingAck {past : List (Event Signature)} {sessionIndex index : Nat}
    (informed : Informed libs past sessionIndex index perSigner) {pending : Interest}
    (waits : perSigner.phase = .awaitingAck pending) : perSigner.paraDataPromise = none := by
  -- A promise comes from a delivered acknowledgement, and none has been delivered.
  cases promise : perSigner.paraDataPromise with
  | none => rfl
  | some para =>
    obtain ⟨ack, reply, ⟨draw, delivered, -⟩, -⟩ := informed.promised para promise
    exact absurd delivered (informed.silent pending waits ack draw)

/-- Encryption to the signer stays a fact about a remote call on the same terms. -/
theorem EncryptedToSigner.mono {trustedIds : TrustedIds PublicKey}
    {past : List (Event Signature)} {sessionIndex index : Nat} {para : Data}
    {other : MultiSignPerSignerState} {later : Event Signature}
    (encrypted : EncryptedToSigner libs trustedIds past sessionIndex index perSigner para)
    (terms : SameTerms perSigner other) :
    EncryptedToSigner libs trustedIds (past ++ [later]) sessionIndex index other para := by
  -- A later event leaves the acknowledgement among the earlier ones.
  obtain ⟨ack, reply, acknowledged, signed, aesKey, hmacKey, under⟩ := encrypted
  refine ⟨ack, reply, ?_, ?_, ?_, ?_, under⟩
  · rw [terms.ecdh]
    exact acknowledged.mono
  · rw [terms.signerKeyName]
    exact signed
  · rw [terms.aesKey, aesKey]
  · rw [terms.hmacKey, hmacKey]

end Promises

namespace MPSInitiator

/-- Every parameter packet that has been finalized or released is encrypted to its signer. -/
structure Confidential (libs : Libraries SecretKey PublicKey Signature)
    (recorded : RecordedInitiator PublicKey Signature) : Prop where
  promised : ∀ sessionIndex index perSigner para,
    recorded.state.rpcAt sessionIndex index = some perSigner →
    perSigner.paraDataPromise = some para →
    EncryptedToSigner libs recorded.state.schemaContainer.trustedIds recorded.past sessionIndex
      index perSigner para
  released : ∀ para ∈ recorded.outputs, ∃ sessionIndex index perSigner,
    recorded.state.rpcAt sessionIndex index = some perSigner ∧
      perSigner.paraDataPromise = some para

/-- An acknowledgement that a remote call awaits and can read is signed by the trusted signer. -/
def AwaitsTrusted (libs : Libraries SecretKey PublicKey Signature)
    (recorded : RecordedInitiator PublicKey Signature) (event : Event Signature) : Prop :=
  ∀ sessionIndex index ack draw perSigner pending reply,
    event = .rpc sessionIndex index (.data ack) draw →
    recorded.state.rpcAt sessionIndex index = some perSigner →
    perSigner.phase = .awaitingAck pending →
    parseAckReply libs.tlv libs.ssl perSigner.ecdh draw.salt ack = .ok reply →
    SignedByTrusted libs recorded.state.schemaContainer.trustedIds perSigner.signerKeyName ack

variable {libs : Libraries SecretKey PublicKey Signature}
variable {recorded after : RecordedInitiator PublicKey Signature} {event : Event Signature}

/-- A remote call with a promise stays on its terms. -/
theorem AllInformed.sameTerms (informed : AllInformed libs recorded)
    (running : recorded.state.liveness = .running)
    (next : recorded.state.next libs event = some after.state) {sessionIndex index : Nat}
    {perSigner : MultiSignPerSignerState}
    (found : recorded.state.rpcAt sessionIndex index = some perSigner) {para : Data}
    (promised : perSigner.paraDataPromise = some para) :
    ∃ other, after.state.rpcAt sessionIndex index = some other ∧ SameTerms perSigner other := by
  obtain ⟨other, remains⟩ := rpcAt_isSome next found
  refine ⟨other, remains, ?_⟩
  cases rpcAt_step next remains with
  | untouched same apart =>
    cases found.symm.trans same
    exact ⟨rfl, rfl, rfl, rfl, rfl, rfl⟩
  | started absent apart new => cases found.symm.trans absent
  | reacted same event reacted left stops =>
    cases found.symm.trans same
    -- Only an acknowledgement changes the terms, and with a promise none is awaited.
    rcases (react_responds reacted).terms with ⟨ack, pending, reply, -, waits, -⟩ | terms
    · have unset := ((informed running).1 _ _ _ found).unset_of_awaitingAck waits
      cases promised.symm.trans unset
    · exact left ▸ terms

/-- Where everything is confidential after a step, no acknowledgement has been read by it but one
of the trusted signer. -/
theorem Confidential.awaitsTrusted (informed : AllInformed libs recorded)
    (taken : Recorded.next (step libs) recorded event = some after)
    (kept : Confidential libs after) : AwaitsTrusted libs recorded event := by
  obtain ⟨put, stepped, past, outputs⟩ := Recorded.next_cases taken
  have next := next_of_step stepped
  have running := running_of_step stepped
  have trusted := (next_step next).trustedIds_eq
  intro sessionIndex index ack draw perSigner pending reply same found waits read
  obtain ⟨other, remains⟩ := rpcAt_isSome next found
  cases rpcAt_step next remains with
  | untouched also apart => exact absurd same (apart _ _)
  | started absent apart new => exact absurd same (apart _ _)
  | @reacted reactor rpcEvent reactDraw signingKeyName reaction also event reacted left stops =>
    cases found.symm.trans also
    cases same.symm.trans event
    obtain ⟨name, ecdh, aesKey, hmacKey, para, promised, -⟩ :=
      (react_responds reacted).of_read waits read
    rw [left] at remains
    obtain ⟨other, otherReply, acknowledged, signed, -⟩ :=
      kept.promised _ _ _ para remains promised
    rw [past, ecdh] at acknowledged
    rw [trusted, name] at signed
    -- No acknowledgement but this one has ever been delivered.
    rcases acknowledged_concat.mp acknowledged with ⟨earlier, before, -⟩ | ⟨later, now, -⟩
    · exact absurd before (((informed running).1 _ _ _ found).silent pending waits other earlier)
    · rw [same] at now
      cases now
      exact signed

/-- A step that reads no acknowledgement but one of the trusted signer leaves the promises
encrypted. -/
theorem Confidential.promised_step (confidential : Confidential libs recorded)
    (taken : Recorded.next (step libs) recorded event = some after)
    (awaits : AwaitsTrusted libs recorded event) :
    ∀ sessionIndex index other para, after.state.rpcAt sessionIndex index = some other →
      other.paraDataPromise = some para →
      EncryptedToSigner libs after.state.schemaContainer.trustedIds after.past sessionIndex index
        other para := by
  obtain ⟨put, stepped, past, outputs⟩ := Recorded.next_cases taken
  have next := next_of_step stepped
  have trusted := (next_step next).trustedIds_eq
  intro sessionIndex index other para remains promised
  rw [past, trusted]
  -- The promise is an old one, that of a new remote call, or that of the call which reacts.
  cases rpcAt_step next remains with
  | untouched found apart =>
    exact (confidential.promised _ _ _ _ found promised).mono ⟨rfl, rfl, rfl, rfl, rfl, rfl⟩
  | started absent apart new =>
    rw [new] at promised
    cases promised
  | @reacted perSigner rpcEvent draw signingKeyName reaction found same reacted left stops =>
    have responds := react_responds reacted
    rcases responds.terms with ⟨ack, pending, reply, data, waits, read⟩ | terms
    · -- The acknowledgement has just been read.
      subst data
      have signed := awaits _ _ _ _ _ _ _ same found waits read
      obtain ⟨name, ecdh, aesKey, hmacKey, packet, kept, encrypted⟩ :=
        responds.of_read waits read
      rw [left] at promised ⊢
      cases kept.symm.trans promised
      refine ⟨ack, reply, acknowledged_concat.mpr (.inr ⟨draw, same, ?_⟩), ?_, aesKey, hmacKey,
        encrypted⟩
      · rw [ecdh]
        exact read
      · rw [name]
        exact signed
    · -- Any other reaction keeps the terms of the call, and what was promised before.
      rw [left] at promised ⊢
      exact (confidential.promised _ _ _ _ found
        (terms.paraDataPromise.symm.trans promised)).mono terms

/-- Whatever a step puts on the face has been promised. -/
theorem Confidential.released_step (informed : AllInformed libs recorded)
    (confidential : Confidential libs recorded)
    (taken : Recorded.next (step libs) recorded event = some after) :
    ∀ para ∈ after.outputs, ∃ sessionIndex index other,
      after.state.rpcAt sessionIndex index = some other ∧
        other.paraDataPromise = some para := by
  obtain ⟨put, stepped, past, outputs⟩ := Recorded.next_cases taken
  have next := next_of_step stepped
  have running := running_of_step stepped
  intro para member
  -- Before the step some remote call held the packet as its promise.
  have holder : ∃ sessionIndex index perSigner,
      recorded.state.rpcAt sessionIndex index = some perSigner ∧
        perSigner.paraDataPromise = some para := by
    rw [outputs] at member
    rcases List.mem_append.mp member with before | now
    · exact confidential.released para before
    · obtain ⟨sessionIndex, index, perSigner, draw, -, found, promised⟩ :=
        put_cases stepped now
      exact ⟨sessionIndex, index, perSigner, found, promised⟩
  obtain ⟨sessionIndex, index, perSigner, found, promised⟩ := holder
  -- An informed call keeps its terms in the step.
  obtain ⟨other, remains, terms⟩ := informed.sameTerms running next found promised
  exact ⟨sessionIndex, index, other, remains, terms.paraDataPromise.trans promised⟩

/-- A step keeps everything confidential exactly where it reads no acknowledgement but one of the
trusted signer. -/
theorem keeps_confidential_iff (informed : AllInformed libs recorded)
    (confidential : Confidential libs recorded)
    (taken : Recorded.next (step libs) recorded event = some after) :
    Confidential libs after ↔ AwaitsTrusted libs recorded event := by
  constructor
  · exact fun kept => kept.awaitsTrusted informed taken
  · intro awaits
    exact ⟨confidential.promised_step taken awaits, confidential.released_step informed taken⟩

/-- In a run every parameter packet that is finalized or released is encrypted under keys from an
acknowledgement that the signer's trusted key verifies, exactly when every acknowledgement that a
remote call awaits and can read is verified by that key. -/
theorem confidential_iff (libs : Libraries SecretKey PublicKey Signature)
    {initiator : MPSInitiator PublicKey} {events : List (Event Signature)}
    {final : RecordedInitiator PublicKey Signature} (unused : initiator.sessions = [])
    (run : Run.after (Recorded.next (step libs)) events (.start initiator) = some final) :
    Run.EveryState (Recorded.next (step libs)) (Confidential libs) events (.start initiator) ↔
      Run.EveryStep (Recorded.next (step libs)) (AwaitsTrusted libs) events
        (.start initiator) := by
  -- Every step keeps what remote calls know, and decides whether the packets stay confidential.
  refine Run.everyState_iff_everyStep (AllInformed libs)
    (fun recorded event after informed taken => informed.step taken)
    (fun recorded event after informed confidential taken =>
      keeps_confidential_iff informed confidential taken)
    (allInformed_start unused) ?_ run
  refine ⟨?_, fun para member => by cases member⟩
  intro sessionIndex index perSigner para found
  simp [Recorded.start, rpcAt, unused] at found

end MPSInitiator

namespace Reference

/-- Somebody between the initiator and the first signer, with another BLS key. -/
def forger : BLSSigner Nat := { firstSigner with secretKey := 99 }

/-- The acknowledgement that the forger sends. -/
def forgedAck : Data := (replies forger [1]).1

/-- The AES key that the forger agrees on. -/
def forgedKey : Option Buffer :=
  match (request firstKey).phase with
  | .awaitingAck pending =>
    match forger.onSignRequest libraries pending
      ⟨[6], List.replicate 32 2, length_salt, 11, [1]⟩ with
    | .ok (.inr accepted) => some accepted.state.aesKey
    | _ => none
  | _ => none

/-- The forger answers the sign request and asks for the parameter packet. -/
def forgery : List (Event Nat) :=
  [sign eitherSigner, meet 0 (.data forgedAck), meet 0 .paraInterest]

end Reference

open Reference in
/-- The equivalence for the run in which the acknowledgement is forged. -/
theorem MPSInitiator.confidential_iff_forgery :
    Run.EveryState (Recorded.next (step libraries)) (Confidential libraries) forgery
        (.start initiator) ↔
      Run.EveryStep (Recorded.next (step libraries)) (AwaitsTrusted libraries) forgery
        (.start initiator) := by
  have possible : (Run.after (Recorded.next (step libraries)) forgery
      (.start initiator)).isSome = true := by decide +kernel
  obtain ⟨final, run⟩ := Option.isSome_iff_exists.mp possible
  exact confidential_iff libraries rfl run

open Reference in
/-- The forged acknowledgement verifies under neither trusted key, and yet the packet to be signed
is released to the forger, who can read it. -/
theorem MPSInitiator.forgery_releases :
    libraries.bls.ndnBLSVerify libraries.tlv 0 7 forgedAck = .ok false ∧
      (∃ final para aesKey, Run.after (Recorded.next (step libraries)) forgery
          (.start initiator) = some final ∧ final.outputs = [para] ∧ forgedKey = some aesKey ∧
        parseParameterData libraries.tlv libraries.ssl aesKey para = .ok toBeSigned) ∧
      ¬ Run.EveryState (Recorded.next (step libraries)) (Confidential libraries) forgery
        (.start initiator) := by
  have refused : ∀ key ∈ [7, 8],
      libraries.bls.ndnBLSVerify libraries.tlv 0 key forgedAck = .ok false := by decide +kernel
  have ran : (Run.after (Recorded.next (step libraries)) forgery (.start initiator)).map
      (fun final => (final.outputs.map fun para => forgedKey.map fun aesKey =>
          parseParameterData libraries.tlv libraries.ssl aesKey para,
        final.state.schemaContainer.trustedIds.entries)) =
      some ([some (.ok toBeSigned)], [(firstKey, 7), (secondKey, 8)]) := by decide +kernel
  obtain ⟨final, run, both⟩ := Option.map_eq_some_iff.mp ran
  obtain ⟨reads, entries⟩ := Prod.mk.inj both
  obtain ⟨para, rest, outputs, opened, nothing⟩ := List.map_eq_cons_iff.mp reads
  rw [List.map_eq_nil_iff] at nothing
  rw [nothing] at outputs
  obtain ⟨aesKey, agreed, decrypted⟩ := Option.map_eq_some_iff.mp opened
  refine ⟨refused 7 (by simp), ⟨final, para, aesKey, run, outputs, agreed, decrypted⟩, ?_⟩
  intro every
  have whole : forgery ++ [] = forgery := List.append_nil _
  have confidential := (whole ▸ every).after_part run
  obtain ⟨sessionIndex, index, perSigner, found, promised⟩ :=
    confidential.released para (by simp [outputs])
  obtain ⟨ack, reply, ⟨draw, delivered, -⟩, ⟨key, trusted, verified⟩, -⟩ :=
    confidential.promised _ _ _ _ found promised
  -- The forged acknowledgement is the only Data packet that has been delivered.
  rw [Recorded.past_after run] at delivered
  have same : ack = forgedAck := by
    simp only [Recorded.start, forgery, sign, meet, List.nil_append, List.mem_cons, reduceCtorEq,
      Event.rpc.injEq, RpcEvent.data.injEq, List.not_mem_nil, or_false, false_or, and_false,
      false_and] at delivered
    exact delivered.2.2.1
  have listed : key ∈ [7, 8] := by
    simp only [TrustedIds.find, entries, Option.map_eq_some_iff] at trusted
    obtain ⟨entry, position, equal⟩ := trusted
    have member := List.mem_map_of_mem (f := Prod.snd) (List.mem_of_find?_eq_some position)
    rw [equal] at member
    exact member
  have fails := refused key listed
  rw [← same, verified 0] at fails
  cases fails

end NdnMps
