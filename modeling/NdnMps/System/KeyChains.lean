import NdnMps.Libraries.Reference
import NdnMps.System.Undisturbed

/-! Whether the packets between an initiator and a signer verify when each of them has a key chain
of its own. -/

namespace NdnMps

variable {SecretKey PublicKey Signature : Type}

/-- A packet that is signed with an HMAC key verifies exactly where the TPM holds the key. -/
theorem HmacSigned.verifySignature_iff {libs : Libraries SecretKey PublicKey Signature}
    (verifies : libs.keyChain.Verifies)
    (needsKey : libs.keyChain.NeedsKey) {hmacKey : Buffer} {data : Data}
    (signed : HmacSigned libs hmacKey data) (tpm : List Buffer) :
    libs.keyChain.verifySignature tpm hmacKey data = true ↔ hmacKey ∈ tpm := by
  -- Without the key the check fails, and with it only the signature matters.
  obtain ⟨unsigned, signed⟩ := signed
  constructor
  · exact needsKey tpm hmacKey data
  · intro held
    rw [signed]
    exact verifies tpm hmacKey unsigned held

namespace RpcExchange

/-- The HMAC checks that a step makes succeed: the signer's check of the parameter packet, and the
initiator's check of the result packet. -/
def ChecksSucceed (libs : Libraries SecretKey PublicKey Signature)
    (recorded : RecordedExchange Signature) : RpcExchangeEvent Signature → Prop
  | .link .parameter => ∀ data state, recorded.state.link.parameter = some data →
    recorded.state.link.state = some state →
      libs.keyChain.verifySignature recorded.state.signerTpm state.hmacKey data = true
  | .link (.reply _) => ∀ data pending, recorded.state.link.reply = some data →
    recorded.state.perSigner.phase = .awaitingResult pending →
      libs.keyChain.verifySignature recorded.state.tpm recorded.state.perSigner.hmacKey data = true
  | _ => True

/-- A parameter packet that reaches the signer comes after the signer's first reply to a result
Interest, unless the signer's TPM has held the request's key from the start. -/
def RepliesFirst (signerTpm : List Buffer) (recorded : RecordedExchange Signature) :
    RpcExchangeEvent Signature → Prop
  | .link .parameter => ∀ data state, recorded.state.link.parameter = some data →
    recorded.state.link.state = some state →
      state.hmacKey ∈ signerTpm ∨ ∃ result, .data result ∈ recorded.outputs
  | _ => True

section Checks

variable {libs : Libraries SecretKey PublicKey Signature} {signer : BLSSigner SecretKey}
variable {start : RpcExchange} {recorded : RecordedExchange Signature}

/-- The checks of a step succeed exactly when the signer has imported the key before. -/
theorem Undisturbed.succeeds_iff (verifies : libs.keyChain.Verifies)
    (needsKey : libs.keyChain.NeedsKey) (fresh : Fresh libs start)
    (undisturbed : Undisturbed libs signer start recorded) (event : RpcExchangeEvent Signature) :
    ChecksSucceed libs recorded event ↔ RepliesFirst start.signerTpm recorded event := by
  -- Only the two steps that check something matter.
  cases event with
  | nack draw => exact Iff.rfl
  | timeout draw => exact Iff.rfl
  | parameterFailure => exact Iff.rfl
  | link event =>
    cases event with
    | interest draw => exact Iff.rfl
    | fetch draw => exact Iff.rfl
    | fetchResult draw => exact Iff.rfl
    | parameter =>
      refine forall₂_congr fun data state => imp_congr_right fun sent =>
        imp_congr_right fun kept => ?_
      cases undisturbed with
      | requesting unread => simp [unread.parameter] at sent
      | accepted unread => simp [unread.parameter] at sent
      | agreed agreed counted =>
        cases agreed.kept.symm.trans kept
        have signed := agreed.parameter data sent
        rw [signed.verifySignature_iff verifies needsKey]
        exact agreed.imported
    | reply draw =>
      refine iff_of_true (fun data pending sent waits => ?_) trivial
      have unread : ¬ Unread start recorded := by
        intro unread
        obtain ⟨request, keyName, nonce, signerPrefix, phase, -⟩ := fresh.requested
        rcases unread.perSigner with same | same <;> simp [same, phase] at waits
      cases undisturbed with
      | requesting early => exact absurd early unread
      | accepted early => exact absurd early unread
      | agreed agreed counted =>
        obtain ⟨interestName, other, random, terms, made⟩ := agreed.reply data sent
        have signed : HmacSigned libs recorded.state.perSigner.hmacKey data :=
          ⟨_, agreed.hmacKey ▸ made⟩
        rw [signed.verifySignature_iff verifies needsKey, agreed.hmacKey]
        exact agreed.held

end Checks

/-- In every run of a remote call whose two parties have a key chain each, all HMAC checks succeed
exactly when each parameter packet reaches the signer after the signer's first reply to a result
Interest, or the signer's TPM has held the request's key from the start. -/
theorem checksSucceed_iff (libs : Libraries SecretKey PublicKey Signature)
    (lossless : libs.tlv.Lossless) (nothing : libs.tlv.encode [] = [])
    (matching : libs.ssl.Matching) (verifies : libs.keyChain.Verifies)
    (needsKey : libs.keyChain.NeedsKey) (signer : BLSSigner SecretKey)
    (initiatorPrefix : Name) (toBeSigned : Data) (signingKeyName signerKeyName : Name)
    (draw : RpcDraw) (tpm signerTpm : List Buffer) (events : List (RpcExchangeEvent Signature)) :
    Run.EveryStep (Recorded.next (step libs signer signingKeyName)) (ChecksSucceed libs) events
        (.start (ofRpc (Session.newRpc libs initiatorPrefix toBeSigned signingKeyName signerKeyName
          draw) tpm signerTpm)) ↔
      Run.EveryStep (Recorded.next (step libs signer signingKeyName)) (RepliesFirst signerTpm)
        events (.start (ofRpc (Session.newRpc libs initiatorPrefix toBeSigned signingKeyName
          signerKeyName draw) tpm signerTpm)) := by
  -- Along the run the exchange is undisturbed, so each check succeeds exactly with its key.
  have fresh : Fresh libs (ofRpc (Session.newRpc libs initiatorPrefix toBeSigned signingKeyName
    signerKeyName draw) tpm signerTpm) := fresh_ofRpc tpm signerTpm
  exact Run.everyStep_congr (Undisturbed libs signer _)
    (fun recorded event next undisturbed taken =>
      undisturbed.step lossless matching nothing fresh taken)
    (fun recorded event undisturbed => undisturbed.succeeds_iff verifies needsKey fresh event)
    (undisturbed_start fresh rfl)

end RpcExchange

namespace Reference

/-- The parameter packet is fetched as soon as the request has been acknowledged, and the result is
asked for afterwards. -/
def usualOrder : List (RpcExchangeEvent Nat) :=
  [.link (.interest signDraw), .link (.reply draw), .link (.fetch draw), .link .parameter,
    .link (.fetchResult draw), .link (.interest signDraw), .link (.reply draw)]

/-- The reference libraries check an HMAC with a key that the TPM holds. -/
theorem keyChain_needsKey : libraries.keyChain.NeedsKey := by
  intro tpm hmacKey data verified
  simp only [libraries, keyChain, Bool.and_eq_true, decide_eq_true_eq] at verified
  exact verified.1

end Reference

open Reference in
/-- The equivalence for the usual order. -/
theorem RpcExchange.checksSucceed_iff_usualOrder :
    Run.EveryStep (Recorded.next (step libraries anySigner (.ofTexts ["i", "KEY", "1"])))
        (ChecksSucceed libraries) usualOrder (.start newExchange) ↔
      Run.EveryStep (Recorded.next (step libraries anySigner (.ofTexts ["i", "KEY", "1"])))
        (RepliesFirst []) usualOrder (.start newExchange) :=
  checksSucceed_iff libraries PacketFormat.tlv_lossless rfl openssl_matching keyChain_verifies
    keyChain_needsKey anySigner _ _ _ _ _ [] [] usualOrder

open Reference in
/-- In the usual order the parameter packet does not verify, and so the signer is still processing
when the result is asked for. -/
theorem RpcExchange.usualOrder_fails :
    (∃ final, Run.after (Recorded.next (step libraries anySigner (.ofTexts ["i", "KEY", "1"])))
        usualOrder (.start newExchange) = some final ∧ final.state.link.parameter = none ∧
      final.state.link.state.map SignRequestState.code = some .processing) ∧
    ¬ Run.EveryStep (Recorded.next (step libraries anySigner (.ofTexts ["i", "KEY", "1"])))
      (ChecksSucceed libraries) usualOrder (.start newExchange) := by
  constructor
  · have ran : (Run.after (Recorded.next (step libraries anySigner (.ofTexts ["i", "KEY", "1"])))
        usualOrder (.start newExchange)).map (fun final =>
          (final.state.link.parameter, final.state.link.state.map SignRequestState.code)) =
        some (none, some .processing) := by decide +kernel
    obtain ⟨final, run, both⟩ := Option.map_eq_some_iff.mp ran
    obtain ⟨parameter, code⟩ := Prod.mk.inj both
    exact ⟨final, run, parameter, code⟩
  · intro every
    -- The first three events bring the parameter packet on its way to the signer.
    have early : (Run.after (Recorded.next (step libraries anySigner (.ofTexts ["i", "KEY", "1"])))
        (usualOrder.take 3) (.start newExchange)).map (fun recorded =>
          (recorded.state.link.parameter.isSome, recorded.state.link.state.isSome,
            recorded.state.signerTpm)) = some (true, true, []) := by decide +kernel
    obtain ⟨recorded, run, parts⟩ := Option.map_eq_some_iff.mp early
    simp only [Prod.mk.injEq] at parts
    obtain ⟨sent, kept, tpm⟩ := parts
    obtain ⟨data, sent⟩ := Option.isSome_iff_exists.mp sent
    obtain ⟨state, kept⟩ := Option.isSome_iff_exists.mp kept
    have checked := every.after_part (usualOrder.take 3) run data state sent kept
    have held := keyChain_needsKey _ _ _ checked
    rw [tpm] at held
    cases held

end NdnMps
