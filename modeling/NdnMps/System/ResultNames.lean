import Mathlib.Data.List.Induction
import NdnMps.System.Undisturbed

/-! Whether the initiator asks for the result under the name that the signer has given last. -/

namespace NdnMps

variable {SecretKey PublicKey Signature : Type}

/-- Where the signer has named the next result, a poll asks for the name that it has given last,
with the components of the signed Interest behind it. -/
def AsksForLatest (libs : Libraries SecretKey PublicKey Signature) (aesKey : Buffer)
    (before : List ResultPacket) (packet : ResultPacket) : Prop :=
  ∀ interest name, packet = .interest interest →
    (resultNames libs aesKey before).getLast? = some name →
      ∃ digest, interest.name = name.append ⟨Component.parametersDigestType, digest⟩

/-- The scheduled result fetch of the initiator fires. -/
def RpcExchangeEvent.fires : RpcExchangeEvent Signature → Bool
  | .link (.fetchResult _) => true
  | _ => false

/-- Replies are no polls. -/
theorem polls_data (replies : List Data) : polls (replies.map .data) = 0 := by
  simp [polls, List.countP_map, Function.comp_def]

theorem polls_append (first second : List ResultPacket) :
    polls (first ++ second) = polls first + polls second :=
  List.countP_append

/-- Among several polls there is a second one. -/
theorem exists_second_poll {outputs : List ResultPacket} (several : 1 < polls outputs) :
    ∃ before interest later, outputs = before ++ .interest interest :: later ∧
      polls before = 1 := by
  -- The second poll is the last packet, or it is found without the last packet.
  induction outputs using List.reverseRecOn with
  | nil => simp [polls] at several
  | append_singleton earlier last ih =>
    rw [polls_append] at several
    by_cases enough : 1 < polls earlier
    · obtain ⟨before, interest, later, split, once⟩ := ih enough
      exact ⟨before, interest, later ++ [last], by simp [split], once⟩
    · cases last with
      | interest interest =>
        have single : polls [ResultPacket.interest interest] = 1 := rfl
        exact ⟨earlier, interest, [], rfl, by omega⟩
      | data data =>
        have none : polls [ResultPacket.data data] = 0 := rfl
        omega

namespace RpcExchange

variable {libs : Libraries SecretKey PublicKey Signature} {signer : BLSSigner SecretKey}
variable {signingKeyName : Name} {recorded after : RecordedExchange Signature}

/-- The initiator polls once whenever the scheduled result fetch fires, and never otherwise. -/
theorem Undisturbed.polls_step (lossless : libs.tlv.Lossless) {start : RpcExchange}
    (fresh : Fresh libs start) (undisturbed : Undisturbed libs signer start recorded)
    {event : RpcExchangeEvent Signature}
    (taken : Recorded.next (RpcExchange.step libs signer signingKeyName) recorded event =
      some after) :
    polls after.outputs = polls recorded.outputs + if event.fires then 1 else 0 := by
  obtain ⟨⟨left, put⟩, stepped, same⟩ := Option.map_eq_some_iff.mp taken
  subst same
  rw [polls_append, Nat.add_left_cancel_iff]
  -- Only the fetch of a result puts an Interest on the face.
  cases event with
  | link event =>
    cases event with
    | interest draw =>
      obtain ⟨interest, sent, stepped⟩ := Option.bind_eq_some_iff.mp stepped
      obtain ⟨further, handled, stepped⟩ := Option.bind_eq_some_iff.mp stepped
      cases stepped
      -- The signer puts at most a Data there.
      dsimp only
      split
      · rfl
      · exact polls_data _
    | reply draw =>
      obtain ⟨data, sent, stepped⟩ := Option.bind_eq_some_iff.mp stepped
      obtain ⟨pending, waits, stepped⟩ := Option.bind_eq_some_iff.mp stepped
      split at stepped
      · obtain ⟨left, reacted, stepped⟩ := Option.bind_eq_some_iff.mp stepped
        cases stepped
        rfl
      · cases stepped
    | fetch draw =>
      obtain ⟨interest, sent, stepped⟩ := Option.bind_eq_some_iff.mp stepped
      split at stepped
      · obtain ⟨left, reacted, stepped⟩ := Option.bind_eq_some_iff.mp stepped
        cases stepped
        rfl
      · cases stepped
    | parameter =>
      obtain ⟨data, sent, stepped⟩ := Option.bind_eq_some_iff.mp stepped
      obtain ⟨kept, present, stepped⟩ := Option.bind_eq_some_iff.mp stepped
      split at stepped
      · cases stepped
      · cases stepped
        rfl
    | fetchResult draw =>
      obtain ⟨left, reacted, stepped⟩ := Option.bind_eq_some_iff.mp stepped
      cases stepped
      obtain ⟨reaction, responds, same⟩ := atInitiator_cases reacted
      subst same
      -- A result fetch that fires leaves an Interest pending.
      cases responds with
      | fetches waits signable named => rfl
      | unnameable waits unsignable =>
        rw [undisturbed.signable lossless fresh waits] at unsignable
        cases unsignable
  | nack draw =>
    obtain ⟨left, reacted, stepped⟩ := Option.bind_eq_some_iff.mp stepped
    cases stepped
    rfl
  | timeout draw =>
    obtain ⟨left, reacted, stepped⟩ := Option.bind_eq_some_iff.mp stepped
    cases stepped
    rfl
  | parameterFailure =>
    obtain ⟨kept, present, stepped⟩ := Option.bind_eq_some_iff.mp stepped
    split at stepped
    · cases stepped
      rfl
    · cases stepped

/-- In a run the packets stay undisturbed, and the initiator polls as often as the scheduled result
fetch fires. -/
theorem polls_of_run (lossless : libs.tlv.Lossless) (matching : libs.ssl.Matching)
    (nothing : libs.tlv.encode [] = []) {events : List (RpcExchangeEvent Signature)}
    {start : RpcExchange} (fresh : Fresh libs start)
    (sent : start.link = Link.ofRpc (fun _ => 0) start.perSigner)
    {final : RecordedExchange Signature}
    (run : Run.after (Recorded.next (step libs signer signingKeyName)) events (.start start) =
      some final) :
    Undisturbed libs signer start final ∧
      polls final.outputs = events.countP RpcExchangeEvent.fires := by
  -- One step counts as one on both sides, or as none, as long as the result can be asked for.
  have kept : ∀ (recorded : RecordedExchange Signature) event after,
      (Undisturbed libs signer start recorded ∧
        polls recorded.outputs = recorded.past.countP RpcExchangeEvent.fires) →
      Recorded.next (step libs signer signingKeyName) recorded event = some after →
      Undisturbed libs signer start after ∧
        polls after.outputs = after.past.countP RpcExchangeEvent.fires := by
    rintro recorded event after ⟨undisturbed, counted⟩ taken
    obtain ⟨-, -, past, -⟩ := Recorded.next_cases taken
    refine ⟨undisturbed.step lossless matching nothing fresh taken, ?_⟩
    rw [undisturbed.polls_step lossless fresh taken, past, List.countP_append, counted,
      List.countP_singleton]
  obtain ⟨undisturbed, counted⟩ := Run.always kept ⟨undisturbed_start fresh sent, rfl⟩ run
  rw [counted, Recorded.past_after run]
  exact ⟨undisturbed, rfl⟩

/-- Polls that each ask for the first version ask for the name given last exactly when there is at
most one of them. -/
theorem Counted.follows_iff {state : SignRequestState}
    (versions : ∀ first second, first < 2 ^ 64 → second < 2 ^ 64 →
      libs.tlv.fromVersion first = libs.tlv.fromVersion second → first = second)
    (counted : Counted libs recorded state) :
    History.EachTime (AsksForLatest libs state.aesKey) recorded.outputs ↔
      polls recorded.outputs ≤ 1 := by
  constructor
  · intro each
    by_contra several
    obtain ⟨before, interest, later, split, once⟩ :=
      exists_second_poll (Nat.lt_of_not_le several)
    obtain ⟨⟨digest, first⟩, even, latest⟩ := counted.order before _ later split interest rfl
    -- The reply to the first poll has named the second version.
    cases last : (resultNames libs state.aesKey before).getLast? with
    | none =>
      rw [List.getLast?_eq_none_iff] at last
      rw [last, once] at even
      cases even
    | some name =>
      have second := latest name last
      obtain ⟨other, asked⟩ := each before _ later split interest name rfl last
      rw [second, first, once] at asked
      have same : libs.tlv.fromVersion 0 = libs.tlv.fromVersion 1 ∧ digest = other := by
        simpa [Name.append] using asked
      have equal := versions 0 1 (by decide) (by decide) same.1
      cases equal
  · intro few before packet later split interest name same last
    -- The only poll comes before any reply.
    obtain ⟨-, even, -⟩ := counted.order before packet later split interest same
    have position : polls recorded.outputs = polls before + (1 + polls later) := by
      rw [split, same, polls_append, Nat.add_left_cancel_iff, Nat.add_comm, polls,
        List.countP_cons_of_pos rfl]
      rfl
    have none : resultNames libs state.aesKey before = [] := by
      apply List.eq_nil_of_length_eq_zero
      omega
    rw [none] at last
    cases last

/-- In every run of a remote call each result Interest behind a reply that the signer is processing
asks for the name in the latest such reply, exactly when the scheduled result fetch fires at most
once. -/
theorem asksForLatest_iff (libs : Libraries SecretKey PublicKey Signature)
    (lossless : libs.tlv.Lossless) (nothing : libs.tlv.encode [] = [])
    (versions : ∀ first second, first < 2 ^ 64 → second < 2 ^ 64 →
      libs.tlv.fromVersion first = libs.tlv.fromVersion second → first = second)
    (matching : libs.ssl.Matching) (signer : BLSSigner SecretKey) (initiatorPrefix : Name)
    (toBeSigned : Data) (signingKeyName signerKeyName : Name) (draw : RpcDraw)
    (tpm signerTpm : List Buffer) {events : List (RpcExchangeEvent Signature)}
    {final : RecordedExchange Signature}
    (run : Run.after (Recorded.next (step libs signer signingKeyName)) events
      (.start (ofRpc (Session.newRpc libs initiatorPrefix toBeSigned signingKeyName signerKeyName
        draw) tpm signerTpm)) = some final) :
    History.EachTime (AsksForLatest libs final.state.perSigner.aesKey) final.outputs ↔
      events.countP RpcExchangeEvent.fires ≤ 1 := by
  have fresh : Fresh libs (ofRpc (Session.newRpc libs initiatorPrefix toBeSigned signingKeyName
    signerKeyName draw) tpm signerTpm) := fresh_ofRpc tpm signerTpm
  obtain ⟨undisturbed, counted⟩ := polls_of_run lossless matching nothing fresh rfl run
  rw [← counted]
  -- Before both parties have agreed on keys nobody polls.
  have silent : final.outputs = [] →
      (History.EachTime (AsksForLatest libs final.state.perSigner.aesKey) final.outputs ↔
        polls final.outputs ≤ 1) := by
    intro empty
    rw [empty]
    exact iff_of_true History.eachTime_nil (Nat.zero_le 1)
  cases undisturbed with
  | requesting unread => exact silent unread.outputs
  | accepted unread => exact silent unread.outputs
  | agreed agreed counted =>
    rw [agreed.aesKey]
    exact counted.follows_iff versions

end RpcExchange

namespace Reference

/-- Versions are written as numbers, and these can be read back. -/
theorem fromVersion_inj {first second : Nat}
    (same : libraries.tlv.fromVersion first = libraries.tlv.fromVersion second) :
    first = second := by
  -- The octets of a component tell the number that they encode.
  have octets : PacketFormat.encodeNumber first = PacketFormat.encodeNumber second :=
    congrArg Component.value same
  have read := congrArg PacketFormat.readNumber octets
  rw [PacketFormat.readNumber_encodeNumber, PacketFormat.readNumber_encodeNumber] at read
  exact Option.some.inj read

/-- The initiator polls, and it polls again after the signer has replied that it is processing. -/
def twoPolls : List (RpcExchangeEvent Nat) :=
  [.link (.interest signDraw), .link (.reply draw), .link (.fetchResult draw),
    .link (.interest signDraw), .link (.reply draw), .link (.fetchResult draw)]

end Reference

open Reference in
/-- The equivalence for two polls. -/
theorem RpcExchange.asksForLatest_iff_twoPolls :
    ∃ final, Run.after (Recorded.next (step libraries anySigner (.ofTexts ["i", "KEY", "1"])))
        twoPolls (.start newExchange) = some final ∧
      (History.EachTime (AsksForLatest libraries final.state.perSigner.aesKey) final.outputs ↔
        twoPolls.countP RpcExchangeEvent.fires ≤ 1) := by
  have possible : (Run.after (Recorded.next (step libraries anySigner
      (.ofTexts ["i", "KEY", "1"]))) twoPolls (.start newExchange)).isSome = true := by
    decide +kernel
  obtain ⟨final, run⟩ := Option.isSome_iff_exists.mp possible
  exact ⟨final, run, asksForLatest_iff libraries PacketFormat.tlv_lossless rfl
    (fun first second _ _ => fromVersion_inj) openssl_matching anySigner _ _ _ _ _ [] [] run⟩

open Reference in
/-- The second poll asks for version 0 again, although the signer has named version 1. -/
theorem RpcExchange.twoPolls_ask_again :
    ∃ final, Run.after (Recorded.next (step libraries anySigner (.ofTexts ["i", "KEY", "1"])))
        twoPolls (.start newExchange) = some final ∧
      ¬ History.EachTime (AsksForLatest libraries final.state.perSigner.aesKey)
        final.outputs := by
  have ran : (Run.after (Recorded.next (step libraries anySigner (.ofTexts ["i", "KEY", "1"])))
      twoPolls (.start newExchange)).map (fun final =>
        ((final.outputs.drop 2).map fun packet => (polls [packet], packet.name.getPrefix (-1)),
          (resultNames libraries final.state.perSigner.aesKey (final.outputs.take 2)).getLast?)) =
      some ([(1, (resultPrefixOf libraries.tlv (.ofTexts ["a"]) 11).append
          (libraries.tlv.fromVersion 0))],
        some ((resultPrefixOf libraries.tlv (.ofTexts ["a"]) 11).append
          (libraries.tlv.fromVersion 1))) := by decide +kernel
  obtain ⟨final, run, both⟩ := Option.map_eq_some_iff.mp ran
  obtain ⟨asked, named⟩ := Prod.mk.inj both
  refine ⟨final, run, fun each => ?_⟩
  -- The third packet is the second poll.
  obtain ⟨last, rest, split, same, none⟩ := List.map_eq_cons_iff.mp asked
  rw [List.map_eq_nil_iff] at none
  have outputs : final.outputs = final.outputs.take 2 ++ last :: [] := by
    rw [← none, ← split, List.take_append_drop]
  cases last with
  | data data => cases congrArg Prod.fst same
  | interest interest =>
    obtain ⟨digest, other⟩ := each _ _ [] outputs interest _ rfl named
    have name : interest.name.getPrefix (-1) = _ := congrArg Prod.snd same
    rw [other, Name.getPrefix_append] at name
    exact absurd name (by decide +kernel)

end NdnMps
