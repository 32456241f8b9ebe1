import NdnMps.Data.Roll
import NdnMps.Initiator.Completion

/-! Every signer of a session stands in one place: a session refines a roll of parties. -/

namespace NdnMps

variable {SecretKey PublicKey Signature : Type}

namespace Session

/-- A remote call to the signer has ended without a signature, and its loss was not noticed. -/
def Drops (session : Session) (name : Name) : Prop :=
  ∃ index perSigner, session.rpcs[index]? = some perSigner ∧ perSigner.signerKeyName = name ∧
    perSigner.live = false ∧ ∀ call ∈ session.history, call.concludes index = false

/-- The roll says of every signer whether it is listed and where it stands. -/
structure Shows (session : Session) (roll : Roll Name) : Prop where
  listed : ∀ name, name ∈ session.global.signers ↔ roll name ≠ none
  asked : ∀ name, name ∈ liveKeys session.rpcs ↔ roll name = some .asked
  answered : ∀ name, name ∈ session.collectedKeys ↔ roll name = some .answered
  dropped : ∀ name, session.Drops name ↔ roll name = some .dropped
  /-- Nobody is lost for good unless the session has failed. -/
  lost : ∀ name, roll name = some .lost → session.HasFailed

/-- Where a waiting remote call has moved on, its signer may be dropped now, and the others are
dropped that were dropped before. -/
theorem RenewsOne.drops_iff {session renewed : Session} {index : Nat}
    {perSigner other : MultiSignPerSignerState} {extra : List MultiSignPerSignerState}
    {further : List Call} (one : RenewsOne session renewed index other extra further)
    (found : session.rpcs[index]? = some perSigner) (live : perSigner.live = true) (name : Name) :
    renewed.Drops name ↔ session.Drops name ∨ (other.live = false ∧
      other.signerKeyName = name ∧ ∀ call ∈ renewed.history, call.concludes index = false) := by
  constructor
  · rintro ⟨another, candidate, located, key, ended, free⟩
    by_cases same : another = index
    · -- The remote call that has moved on.
      subst same
      rw [one.lookup_self found] at located
      cases located
      exact .inr ⟨ended, key, free⟩
    · rcases one.lookup same located with old | new
      · refine .inl ⟨another, candidate, old, key, ended, fun call member => ?_⟩
        exact free call (one.history ▸ List.mem_append_left _ member)
      · -- The further ones wait.
        rw [one.waiting candidate new] at ended
        cases ended
  · rintro (⟨another, candidate, located, key, ended, free⟩ | ⟨ended, key, free⟩)
    · -- Whoever was dropped before was not waiting, so it has not moved on.
      have different : another ≠ index := by
        rintro rfl
        cases found.symm.trans located
        rw [live] at ended
        cases ended
      refine ⟨another, candidate, one.lookup_old different located, key, ended, ?_⟩
      intro call member
      rw [one.history] at member
      rcases List.mem_append.mp member with old | new
      · exact free call old
      · exact one.only another different call new
    · exact ⟨index, other, one.lookup_self found, key, ended, free⟩

/-- A remote call that goes on is dropped exactly where it was. -/
theorem drops_setRpc {session : Session} {index : Nat} {perSigner next : MultiSignPerSignerState}
    (found : session.rpcs[index]? = some perSigner)
    (sameKey : next.signerKeyName = perSigner.signerKeyName)
    (sameLive : next.live = perSigner.live) (name : Name) :
    (session.setRpc index next).Drops name ↔ session.Drops name := by
  have self : (session.setRpc index next).rpcs[index]? = some next :=
    List.getElem?_set_self (List.getElem?_eq_some_iff.mp found).1
  have others : ∀ another, another ≠ index →
      (session.setRpc index next).rpcs[another]? = session.rpcs[another]? :=
    fun another different => List.getElem?_set_ne (Ne.symm different)
  -- The two sessions have the same history, and the same keys that wait in the same places.
  constructor
  · rintro ⟨another, candidate, located, key, ended, free⟩
    by_cases same : another = index
    · subst same
      cases self.symm.trans located
      exact ⟨another, perSigner, found, sameKey.symm.trans key, sameLive.symm.trans ended, free⟩
    · exact ⟨another, candidate, (others another same).symm.trans located, key, ended, free⟩
  · rintro ⟨another, candidate, located, key, ended, free⟩
    by_cases same : another = index
    · subst same
      cases found.symm.trans located
      exact ⟨another, next, self, sameKey.trans key, sameLive.trans ended, free⟩
    · exact ⟨another, candidate, (others another same).trans located, key, ended, free⟩

/-- Ending a waiting remote call leaves the keys of the others. -/
theorem Coherent.mem_liveKeys_closed {session : Session} (coherent : session.Coherent)
    {index : Nat} {perSigner : MultiSignPerSignerState}
    (found : session.rpcs[index]? = some perSigner) (live : perSigner.live = true) (name : Name) :
    name ∈ liveKeys (session.closeRpc index perSigner).rpcs ↔
      name ≠ perSigner.signerKeyName ∧ name ∈ liveKeys session.rpcs := by
  have perm := liveKeys_close found live
  have distinct := (List.nodup_append.mp coherent.distinct).1
  -- No other waiting call has the key of this one.
  have absent := (List.nodup_cons.mp (perm.nodup_iff.mp distinct)).1
  rw [perm.mem_iff, List.mem_cons]
  constructor
  · intro member
    refine ⟨?_, .inr member⟩
    rintro rfl
    exact absent member
  · rintro ⟨different, member⟩
    exact member.resolve_left different

/-- A failed session stays failed as long as its history is kept. -/
theorem HasFailed.after {session renewed : Session} (failed : session.HasFailed)
    (kept : ∀ call ∈ session.history, call ∈ renewed.history) : renewed.HasFailed := by
  obtain ⟨reason, member⟩ := failed
  exact ⟨reason, kept _ member⟩

namespace Shows

variable {session renewed : Session} {roll : Roll Name} {index : Nat}
  {perSigner : MultiSignPerSignerState}

/-- A waiting signer stands where it is asked. -/
theorem waits (shows' : session.Shows roll) (found : session.rpcs[index]? = some perSigner)
    (live : perSigner.live = true) : roll perSigner.signerKeyName = some .asked :=
  (shows'.asked _).mp (mem_liveKeys found live)

/-- Where the remote call of a signer ends, its roll is settled. -/
theorem settle (shows' : session.Shows roll) (coherent : session.Coherent)
    (found : session.rpcs[index]? = some perSigner) (live : perSigner.live = true)
    (standing : Standing) (final : standing ≠ .asked)
    (signers : renewed.global.signers = session.global.signers)
    (rpcs : liveKeys renewed.rpcs = liveKeys (session.closeRpc index perSigner).rpcs)
    (answered : ∀ name, name ∈ renewed.collectedKeys ↔ name ∈ session.collectedKeys ∨
      (standing = .answered ∧ name = perSigner.signerKeyName))
    (dropped : ∀ name, renewed.Drops name ↔ session.Drops name ∨
      (standing = .dropped ∧ name = perSigner.signerKeyName))
    (kept : session.HasFailed → renewed.HasFailed)
    (lost : standing = .lost → renewed.HasFailed) :
    renewed.Shows (roll.settle perSigner.signerKeyName standing) := by
  have waits := shows'.waits found live
  -- Besides the signer itself, everybody stands where he stood.
  have split : ∀ (name : Name) (place : Standing),
      roll.settle perSigner.signerKeyName standing name = some place ↔
        (name = perSigner.signerKeyName ∧ standing = place) ∨
          (name ≠ perSigner.signerKeyName ∧ roll name = some place) := by
    intro name place
    by_cases same : name = perSigner.signerKeyName
    · subst same
      simp
    · simp [Roll.settle_of_ne roll standing same, same]
  refine ⟨fun name => ?_, fun name => ?_, fun name => ?_, fun name => ?_, fun name stands => ?_⟩
  · rw [signers, shows'.listed name]
    by_cases same : name = perSigner.signerKeyName
    · subst same
      simp [waits]
    · rw [Roll.settle_of_ne roll standing same]
  · rw [rpcs, coherent.mem_liveKeys_closed found live, shows'.asked, split]
    simp [final]
  · rw [answered, shows'.answered, split]
    by_cases same : name = perSigner.signerKeyName
    · subst same
      simp [waits]
    · simp [same]
  · rw [dropped, shows'.dropped, split]
    by_cases same : name = perSigner.signerKeyName
    · subst same
      simp [waits]
    · simp [same]
  · rcases (split name .lost).mp stands with ⟨-, same⟩ | ⟨-, old⟩
    · exact lost same
    · exact kept (shows'.lost name old)

/-- Where a lost signer is replaced, the roll has the new signers in its place. -/
theorem replace {libs : Libraries SecretKey PublicKey Signature} {initiatorPrefix : Name}
    {container : MultipartySchemaContainer PublicKey} {newSigners diffSigners : List Name}
    {draws : Name → RpcDraw} (shows' : session.Shows roll) (coherent : session.Coherent)
    (found : session.rpcs[index]? = some perSigner) (live : perSigner.live = true)
    (renews : container.Renews session.global.schema session.global.signers
      perSigner.signerKeyName newSigners diffSigners)
    (signers : renewed.global.signers = newSigners)
    (rpcs : renewed.rpcs = (session.closeRpc index perSigner).rpcs ++ diffSigners.map
      fun name => newRpc libs initiatorPrefix session.global.toBeSigned
        session.global.signingKeyName name (draws name))
    (answered : renewed.collectedKeys = session.collectedKeys)
    (dropped : ∀ name, renewed.Drops name ↔ session.Drops name)
    (kept : session.HasFailed → renewed.HasFailed) :
    renewed.Shows (roll.replace perSigner.signerKeyName {name | name ∈ diffSigners}) := by
  have waits := shows'.waits found live
  have listed := (shows'.listed perSigner.signerKeyName).mpr (by simp [waits])
  have stays : perSigner.signerKeyName ∉ diffSigners := fun new => renews.fresh _ new listed
  have absent : ∀ name ∈ diffSigners, roll name = none := by
    intro name new
    by_contra stands
    exact renews.fresh name new ((shows'.listed name).mpr stands)
  -- A name is new, or it is the lost one, or it stands where it stood.
  have cases' : ∀ name, (name ∈ diffSigners ∧ roll name = none ∧
        roll.replace perSigner.signerKeyName {name | name ∈ diffSigners} name = some .asked) ∨
      (name = perSigner.signerKeyName ∧ name ∉ diffSigners ∧
        roll.replace perSigner.signerKeyName {name | name ∈ diffSigners} name = none) ∨
      (name ≠ perSigner.signerKeyName ∧ name ∉ diffSigners ∧
        roll.replace perSigner.signerKeyName {name | name ∈ diffSigners} name = roll name) := by
    intro name
    by_cases new : name ∈ diffSigners
    · exact .inl ⟨new, absent name new, roll.replace_of_mem new⟩
    · by_cases same : name = perSigner.signerKeyName
      · subst same
        exact .inr (.inl ⟨rfl, new, roll.replace_self new⟩)
      · exact .inr (.inr ⟨same, new, roll.replace_of_ne new same⟩)
  refine ⟨fun name => ?_, fun name => ?_, fun name => ?_, fun name => ?_, fun name stands => ?_⟩
  · rw [signers, renews.mem_iff, shows'.listed]
    rcases cases' name with ⟨new, none, place⟩ | ⟨same, old, place⟩ | ⟨other, old, place⟩
    · simp [new, place]
    · simp [same, stays, same ▸ place]
    · simp [other, old, place]
  · rw [rpcs, liveKeys_append, liveKeys_newRpcs, List.mem_append,
      coherent.mem_liveKeys_closed found live, shows'.asked]
    rcases cases' name with ⟨new, none, place⟩ | ⟨same, old, place⟩ | ⟨other, old, place⟩
    · simp [new, place]
    · simp [same, stays, same ▸ place]
    · simp [other, old, place]
  · rw [answered, shows'.answered]
    rcases cases' name with ⟨new, none, place⟩ | ⟨same, old, place⟩ | ⟨other, old, place⟩
    · simp [none, place]
    · simp [same, waits, same ▸ place]
    · simp [place]
  · rw [dropped, shows'.dropped]
    rcases cases' name with ⟨new, none, place⟩ | ⟨same, old, place⟩ | ⟨other, old, place⟩
    · simp [none, place]
    · simp [same, waits, same ▸ place]
    · simp [place]
  · rcases cases' name with ⟨new, none, place⟩ | ⟨same, old, place⟩ | ⟨other, old, place⟩
    · simp [place] at stands
    · simp [place] at stands
    · exact kept (shows'.lost name (place.symm.trans stands))

end Shows

/-- A move of a session is a step of its roll, or leaves the roll as it is. -/
theorem Move.steps {libs : Libraries SecretKey PublicKey Signature} {initiatorPrefix : Name}
    {container after : MultipartySchemaContainer PublicKey} {session renewed : Session}
    {index : Nat} {perSigner : MultiSignPerSignerState} {reaction : Reaction} {roll : Roll Name}
    (move : session.Move libs initiatorPrefix container index perSigner reaction after renewed)
    (found : session.rpcs[index]? = some perSigner) (fits : reaction.Fits perSigner)
    (coherent : session.Coherent) (free : session.Unconcluded) (shows' : session.Shows roll) :
    ∃ later, renewed.Shows later ∧ roll.Steps later := by
  obtain ⟨other, extra, further, one, sameKey, self, effect⟩ := move.renewsOne fits
  have waits := fun live => shows'.waits found live
  -- A conclusion of the remote call keeps its signer from being dropped.
  have noticed : perSigner.live = true →
      (∃ call ∈ renewed.history, call.concludes index = true) → ∀ name,
      renewed.Drops name ↔ session.Drops name := by
    rintro live ⟨call, member, concludes⟩ name
    rw [one.drops_iff found live]
    refine ⟨fun drops => drops.resolve_right fun gone => ?_, .inl⟩
    rw [gone.2.2 call member] at concludes
    cases concludes
  cases move with
  | abandoned paraPrefixRegistered =>
    obtain ⟨live, ended, -⟩ := effect
    have free : ∀ call ∈ session.history, call.concludes index = false :=
      free index fun candidate located => by
        cases found.symm.trans located
        exact live
    refine ⟨_, shows'.settle coherent found live .dropped (by simp) rfl
      (liveKeys_closeRpc session index perSigner paraPrefixRegistered)
      (by simp [collectedKeys, closeRpc, setRpc]) (fun name => ?_) id (by simp),
      .single (.settled (waits live) (by simp))⟩
    rw [one.drops_iff found live, sameKey]
    simp only [true_and]
    refine or_congr_right ⟨fun gone => gone.2.1.symm, fun same => ⟨ended, same.symm, free⟩⟩
  | proceeded next tpm put =>
    have live := liveKeys_proceed found fits.1 fits.2
    refine ⟨roll, ⟨shows'.listed, fun name => ?_, shows'.answered, fun name => ?_, shows'.lost⟩,
      .refl⟩
    · simp only [setRpc, live]
      exact shows'.asked name
    · rw [drops_setRpc found fits.1 fits.2]
      exact shows'.dropped name
  | @collected piece missing =>
    have drops := noticed fits ⟨_, List.mem_append_right _ List.mem_cons_self, by
      simp [Call.concludes]⟩
    refine ⟨_, shows'.settle coherent found fits .answered (by simp) rfl rfl (fun name => ?_)
      (fun name => (drops name).trans (by simp))
      (fun failed => failed.after fun _ member => by simp [member]) (by simp),
      .single (.settled (waits fits) (by simp))⟩
    simp [collectedKeys, collectedPairs_collected]
  | @finished piece value nonce aggSig tempSig data info enough aggregated signed announced =>
    have drops := noticed fits ⟨.collected index perSigner.signerKeyName piece, by simp, by
      simp [Call.concludes]⟩
    refine ⟨_, shows'.settle coherent found fits .answered (by simp) rfl rfl (fun name => ?_)
      (fun name => (drops name).trans (by simp))
      (fun failed => failed.after fun _ member => by simp [member]) (by simp),
      .single (.settled (waits fits) (by simp))⟩
    simp only [collectedKeys, collectedPairs_successCb, collectedPairs_collected]
    simp
  | @failed reason text needed =>
    have drops := noticed fits ⟨.onUnavailableSigner index perSigner.signerKeyName, by simp, by
      simp [Call.concludes]⟩
    have hasFailed : HasFailed { session.closeRpc index perSigner with
        history := session.history ++ [.onUnavailableSigner index perSigner.signerKeyName] ++
          [.failureCb text] } := ⟨text, by simp⟩
    refine ⟨_, shows'.settle coherent found fits .lost (by simp) rfl rfl (fun name => ?_)
      (fun name => (drops name).trans (by simp)) (fun _ => hasFailed) (fun _ => hasFailed),
      .single (.settled (waits fits) (by simp))⟩
    simp [collectedKeys, collectedPairs]
  | @replaced reason newSigners diffSigners draws renews =>
    have drops := noticed fits ⟨.onUnavailableSigner index perSigner.signerKeyName, by simp, by
      simp [Call.concludes]⟩
    refine ⟨_, shows'.replace coherent found fits renews rfl rfl ?_ drops
      (fun failed => failed.after fun _ member => by simp [member]),
      .single (.replaced (waits fits) fun name new => ?_)⟩
    · simp only [collectedKeys, collectedPairs_replaced]
    · by_contra stands
      exact renews.fresh name new ((shows'.listed name).mpr stands)

/-- A new session asks everybody on its roll. -/
theorem startSession_shows (libs : Libraries SecretKey PublicKey Signature)
    (initiator : MPSInitiator PublicKey) (unsignedData : Data) (schema : MultipartySchema)
    (signingKeyName : Name) (keyLocatorRandomness : Nat) (rpcs : Name → RpcDraw)
    (signers : List Name) :
    (initiator.startSession libs unsignedData schema signingKeyName keyLocatorRandomness rpcs
      signers).Shows (Roll.asking {name | name ∈ signers}) := by
  rw [startSession_eq]
  -- Nothing has been collected, and every remote call waits.
  refine ⟨by simp, fun name => ?_, fun name => ?_, fun name => ?_, by simp⟩
  · rw [liveKeys_newRpcs]
    simp
  · cases signers <;> simp [collectedKeys, collectedPairs, List.filterMap_map]
  · refine ⟨?_, by simp⟩
    rintro ⟨index, perSigner, located, -, ended, -⟩
    obtain ⟨other, -, same⟩ := List.mem_map.mp (List.mem_of_getElem? located)
    rw [← same] at ended
    cases ended

end Session

namespace Session

/-- The session is coherent, nothing concludes its waiting remote calls, and it shows a roll that
has come from the signers selected for it. -/
structure Refines (session : Session) : Prop where
  coherent : session.Coherent
  free : session.Unconcluded
  roll : ∃ (selected : List Name) (roll : Roll Name), session.Shows roll ∧
    (Roll.asking {name | name ∈ selected}).Steps roll

/-- Every move of a session is one of its roll, or leaves the roll as it is. -/
theorem Move.refines {libs : Libraries SecretKey PublicKey Signature} {initiatorPrefix : Name}
    {container after : MultipartySchemaContainer PublicKey} {session renewed : Session}
    {index : Nat} {perSigner : MultiSignPerSignerState} {reaction : Reaction}
    (move : session.Move libs initiatorPrefix container index perSigner reaction after renewed)
    (found : session.rpcs[index]? = some perSigner) (fits : reaction.Fits perSigner)
    (refines : session.Refines) : renewed.Refines := by
  obtain ⟨coherent, free, selected, roll, shows', opened⟩ := refines
  -- What the roll was opened with does not change.
  obtain ⟨later, laterShows, steps⟩ := move.steps found fits coherent free shows'
  exact ⟨move.coherent found fits coherent, move.unconcluded found fits free, selected, later,
    laterShows, opened.trans steps⟩

/-- The roll of a new session has been opened with its selected signers. -/
theorem startSession_refines {libs : Libraries SecretKey PublicKey Signature}
    (initiator : MPSInitiator PublicKey) {unsignedData : Data} {schema : MultipartySchema}
    {signingKeyName : Name} {keyLocatorRandomness : Nat} {rpcs : Name → RpcDraw}
    {signers : List Name}
    (selected : initiator.schemaContainer.getAvailableSigners schema = .ok signers) :
    (initiator.startSession libs unsignedData schema signingKeyName keyLocatorRandomness rpcs
      signers).Refines :=
  ⟨startSession_coherent selected, startSession_unconcluded initiator _ _ _ _ _ _, signers, _,
    startSession_shows libs initiator _ _ _ _ _ _, .refl⟩

end Session

namespace MPSInitiator

variable {libs : Libraries SecretKey PublicKey Signature}

section Steps

variable {initiator after : MPSInitiator PublicKey} {event : Event Signature}

end Steps

end MPSInitiator

end NdnMps
