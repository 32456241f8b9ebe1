import NdnMps.Initiator.Handover
import NdnMps.Initiator.RemoteCalls

/-! Whether the callback for the parameter packet ever waits for a promise that nobody has kept. -/

namespace NdnMps

variable {SecretKey PublicKey Signature : Type}

namespace MPSInitiator

/-- Whenever the callback for a parameter packet runs, it finds the promise kept. -/
def FindsPromise (recorded : RecordedInitiator PublicKey Signature)
    (event : Event Signature) : Prop :=
  ∀ sessionIndex index draw perSigner, event = .rpc sessionIndex index .paraInterest draw →
    recorded.state.liveness = .running →
    recorded.state.rpcAt sessionIndex index = some perSigner →
    perSigner.paraPrefixRegistered = true → perSigner.paraDataPromise.isSome = true

/-- The Interest for a parameter packet comes after an acknowledgement that the remote call can
read. -/
def AcknowledgedBefore (libs : Libraries SecretKey PublicKey Signature)
    (recorded : RecordedInitiator PublicKey Signature) (event : Event Signature) : Prop :=
  ∀ sessionIndex index draw perSigner, event = .rpc sessionIndex index .paraInterest draw →
    recorded.state.liveness = .running →
    recorded.state.rpcAt sessionIndex index = some perSigner →
    perSigner.paraPrefixRegistered = true →
    ∃ ack reply, Acknowledged libs recorded.past sessionIndex index perSigner.ecdh ack reply

variable {libs : Libraries SecretKey PublicKey Signature}

/-- Where the callback finds its promise, the thread goes on. -/
theorem FindsPromise.not_blocked {recorded after : RecordedInitiator PublicKey Signature}
    {event : Event Signature} (finds : FindsPromise recorded event)
    (taken : Recorded.next (step libs) recorded event = some after) :
    after.state.liveness ≠ .blocked := by
  -- A thread that blocks has answered an Interest for which there was no promise.
  obtain ⟨put, stepped, -, -⟩ := Recorded.next_cases taken
  intro blocked
  obtain ⟨sessionIndex, index, draw, perSigner, same, found, registered, unset⟩ :=
    blocked_cases stepped blocked
  have kept := finds sessionIndex index draw perSigner same (running_of_step stepped) found
    registered
  rw [unset] at kept
  cases kept

/-- As long as every remote call is informed, its promise is kept where it has read an
acknowledgement. -/
theorem findsPromise_congr {recorded : RecordedInitiator PublicKey Signature}
    (informed : AllInformed libs recorded) (event : Event Signature) :
    FindsPromise recorded event ↔ AcknowledgedBefore libs recorded event := by
  -- The promise is kept in the same callback that reads the acknowledgement.
  constructor
  · intro finds sessionIndex index draw perSigner same running found registered
    have kept := finds sessionIndex index draw perSigner same running found registered
    exact ((informed running).1 _ _ _ found).isSome_iff.mp kept
  · intro before sessionIndex index draw perSigner same running found registered
    have read := before sessionIndex index draw perSigner same running found registered
    exact ((informed running).1 _ _ _ found).isSome_iff.mpr read

/-- In a run the callback for a parameter packet finds the promise kept whenever it runs, and the
thread is never blocked, exactly when every Interest for a parameter packet comes after an
acknowledgement that the remote call can read. -/
theorem findsPromise_iff (libs : Libraries SecretKey PublicKey Signature)
    {initiator : MPSInitiator PublicKey} (events : List (Event Signature))
    (unused : initiator.sessions = []) (running : initiator.liveness = .running) :
    (Run.EveryStep (Recorded.next (step libs)) FindsPromise events (.start initiator) ∧
        Run.EveryState (Recorded.next (step libs))
          (fun recorded => recorded.state.liveness ≠ .blocked) events (.start initiator)) ↔
      Run.EveryStep (Recorded.next (step libs)) (AcknowledgedBefore libs) events
        (.start initiator) := by
  have same : Run.EveryStep (Recorded.next (step libs)) FindsPromise events (.start initiator) ↔
      Run.EveryStep (Recorded.next (step libs)) (AcknowledgedBefore libs) events
        (.start initiator) :=
    Run.everyStep_congr (AllInformed libs)
      (fun recorded event after informed taken => informed.step taken)
      (fun recorded event informed => findsPromise_congr informed event) (allInformed_start unused)
  have begins : (Recorded.start initiator : RecordedInitiator PublicKey Signature).state.liveness ≠
      .blocked := by
    intro blocked
    rw [Recorded.start, running] at blocked
    cases blocked
  constructor
  · intro both
    exact same.mp both.1
  · intro before
    have finds := same.mpr before
    -- Nothing but a missing promise could block the thread.
    exact ⟨finds, Run.everyState_of_everyStep (fun recorded => recorded.state.liveness ≠ .blocked)
      (fun recorded event after _ finds taken => finds.not_blocked taken) (fun _ kept => kept)
      begins finds⟩

end MPSInitiator

namespace Reference

/-- The Interest for the parameter packet arrives before the acknowledgement. -/
def earlyInterest : List (Event Nat) := [sign eitherSigner, meet 0 .paraInterest]

/-- The Interest for the parameter packet arrives after the refusal. -/
def lateInterest : List (Event Nat) := refusal ++ [meet 0 .paraInterest]

end Reference

open Reference in
/-- The equivalence for the run whose Interest for the parameter packet comes first. -/
theorem MPSInitiator.findsPromise_iff_early :
    (Run.EveryStep (Recorded.next (step libraries)) FindsPromise earlyInterest
          (.start initiator) ∧
        Run.EveryState (Recorded.next (step libraries))
          (fun recorded => recorded.state.liveness ≠ .blocked) earlyInterest (.start initiator)) ↔
      Run.EveryStep (Recorded.next (step libraries)) (AcknowledgedBefore libraries) earlyInterest
        (.start initiator) :=
  findsPromise_iff libraries earlyInterest rfl rfl

open Reference in
/-- An early Interest for the parameter packet blocks the thread for good, and one after a refusal
finds the promise broken. -/
theorem MPSInitiator.earlyInterest_blocks :
    (∃ final, Run.after (next libraries) earlyInterest initiator = some final ∧
        final.liveness = .blocked ∧ ∀ event, final.next libraries event = none) ∧
      ¬ Run.EveryStep (Recorded.next (step libraries)) FindsPromise earlyInterest
        (.start initiator) ∧
      ¬ Run.EveryStep (Recorded.next (step libraries)) FindsPromise lateInterest
        (.start initiator) := by
  refine ⟨?_, ?_, ?_⟩
  · obtain ⟨final, run, blocked⟩ := Option.map_eq_some_iff.mp
      (show (Run.after (next libraries) earlyInterest initiator).map MPSInitiator.liveness =
        some .blocked from rfl)
    refine ⟨final, run, blocked, fun event => ?_⟩
    -- A blocked initiator takes no event.
    simp [next, step, blocked]
  · -- The Interest comes right after the sign request.
    intro finds
    have waits := finds.after_part [sign eitherSigner] rfl
    have kept := waits 0 0 draw _ rfl rfl rfl rfl
    cases kept
  · -- The unreadable acknowledgement has ended the remote call, and with it the promise.
    have ran : (Run.after (Recorded.next (step libraries)) refusal (.start initiator)).map
        (fun recorded => (recorded.state.liveness, (recorded.state.rpcAt 0 0).map fun perSigner =>
          (perSigner.paraPrefixRegistered, perSigner.paraDataPromise.isSome))) =
        some (.running, some (true, false)) := by decide +kernel
    obtain ⟨recorded, run, same⟩ := Option.map_eq_some_iff.mp ran
    obtain ⟨running, same⟩ := Prod.mk.inj same
    obtain ⟨perSigner, found, same⟩ := Option.map_eq_some_iff.mp same
    obtain ⟨registered, unset⟩ := Prod.mk.inj same
    intro finds
    have kept := finds.after_part refusal run 0 0 draw perSigner rfl running found registered
    rw [unset] at kept
    cases kept

end NdnMps
