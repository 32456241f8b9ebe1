import NdnMps.Data.Run
import NdnMps.Initiator.Moves
import NdnMps.Schema.Selection

/-! What holds of every session in every run: which keys are asked, and which have answered. -/

namespace NdnMps

variable {SecretKey PublicKey Signature : Type}

/-- The keys of the signatures appended so far, with the signatures. -/
def collectedPairs (history : List Call) : List (Name × Buffer) :=
  history.filterMap fun
    | .collected _ signerKeyName piece => some (signerKeyName, piece)
    | _ => none

/-- The keys remote calls have been started for. -/
def contactedKeys (history : List Call) : List Name :=
  history.filterMap fun
    | .performRPC signerKeyName => some signerKeyName
    | _ => none

theorem collectedPairs_append (first second : List Call) :
    collectedPairs (first ++ second) = collectedPairs first ++ collectedPairs second :=
  List.filterMap_append

theorem contactedKeys_append (first second : List Call) :
    contactedKeys (first ++ second) = contactedKeys first ++ contactedKeys second :=
  List.filterMap_append

/-- Starting remote calls stores no signature. -/
@[simp] theorem collectedPairs_performRPC (names : List Name) :
    collectedPairs (names.map .performRPC) = [] := by
  simp [collectedPairs, List.filterMap_map]

/-- A stored signature comes behind the earlier ones. -/
theorem collectedPairs_collected (history : List Call) (index : Nat) (signerKeyName : Name)
    (piece : Buffer) : collectedPairs (history ++ [.collected index signerKeyName piece]) =
      collectedPairs history ++ [(signerKeyName, piece)] := by
  rw [collectedPairs_append]
  rfl

/-- A reported success stores no signature. -/
theorem collectedPairs_successCb (history : List Call) (data info : Data) :
    collectedPairs (history ++ [.successCb data info]) = collectedPairs history := by
  rw [collectedPairs_append]
  exact List.append_nil _

/-- A lost signer with its replacements stores no signature. -/
theorem collectedPairs_replaced (history : List Call) (index : Nat) (signerKeyName : Name)
    (names : List Name) : collectedPairs (history ++ [.onUnavailableSigner index signerKeyName] ++
      names.map .performRPC) = collectedPairs history := by
  rw [collectedPairs_append, collectedPairs_append, collectedPairs_performRPC]
  exact (List.append_nil _).trans (List.append_nil _)

/-- Starting remote calls contacts exactly their keys. -/
@[simp] theorem contactedKeys_performRPC (names : List Name) :
    contactedKeys (names.map .performRPC) = names := by
  simp [contactedKeys, List.filterMap_map]

/-- A statement about a success and what was done before it, for every call. -/
def AtSuccess (holds : List Call → Data → Data → Prop) (before : List Call) : Call → Prop
  | .successCb data info => holds before data info
  | _ => True

/-- Calls other than to the success callback keep a statement about successes. -/
theorem atSuccess_append {holds : List Call → Data → Data → Prop} {history further : List Call}
    (each : History.EachTime (AtSuccess holds) history)
    (silent : ∀ data info, .successCb data info ∉ further) :
    History.EachTime (AtSuccess holds) (history ++ further) := by
  refine each.append fun call member before => ?_
  cases call with
  | successCb data info => exact absurd member (silent data info)
  | _ => trivial

/-- A list splits at any of its positions. -/
theorem exists_split_of_getElem? {α : Type} {list : List α} {index : Nat} {item : α}
    (found : list[index]? = some item) :
    ∃ before later, list = before ++ item :: later ∧ before.length = index ∧
      ∀ other, list.set index other = before ++ other :: later := by
  -- Induction on the list, down to the position.
  induction list generalizing index with
  | nil => cases found
  | cons head rest ih =>
    cases index with
    | zero =>
      cases found
      exact ⟨[], rest, rfl, rfl, fun _ => rfl⟩
    | succ index =>
      obtain ⟨before, later, split, length, set⟩ := ih found
      refine ⟨head :: before, later, ?_, ?_, fun other => ?_⟩
      · rw [split, List.cons_append]
      · rw [List.length_cons, length]
      · rw [List.set_cons_succ, set other, List.cons_append]

/-- The keys of the remote calls that wait for something. -/
def liveKeys (rpcs : List MultiSignPerSignerState) : List Name :=
  (rpcs.filter MultiSignPerSignerState.live).map MultiSignPerSignerState.signerKeyName

theorem liveKeys_append (first second : List MultiSignPerSignerState) :
    liveKeys (first ++ second) = liveKeys first ++ liveKeys second := by
  simp [liveKeys]

/-- Ending a waiting remote call takes exactly its key away. -/
theorem liveKeys_close {rpcs : List MultiSignPerSignerState} {index : Nat}
    {perSigner : MultiSignPerSignerState} (found : rpcs[index]? = some perSigner)
    (live : perSigner.live = true) :
    (liveKeys rpcs).Perm (perSigner.signerKeyName ::
      liveKeys (rpcs.set index { perSigner with phase := .ended })) := by
  -- Around its place the list is the same, and there the filter drops the key.
  obtain ⟨before, later, split, -, set⟩ := exists_split_of_getElem? found
  rw [set, split]
  have ended : ({ perSigner with phase := .ended } : MultiSignPerSignerState).live = false := rfl
  simp only [liveKeys, List.filter_append, List.filter_cons, live, ended, if_true,
    Bool.false_eq_true, if_false, List.map_append, List.map_cons]
  exact List.perm_middle

/-- It does not matter for the live keys how a remote call has ended. -/
theorem liveKeys_set_ended (rpcs : List MultiSignPerSignerState) (index : Nat)
    {first second : MultiSignPerSignerState} (ended : first.live = false)
    (alsoEnded : second.live = false) :
    liveKeys (rpcs.set index first) = liveKeys (rpcs.set index second) := by
  -- Induction on the remote calls, of which one is replaced and filtered out.
  induction rpcs generalizing index with
  | nil => rfl
  | cons perSigner rest ih =>
    cases index with
    | zero => simp [liveKeys, ended, alsoEnded]
    | succ index =>
      have others := ih index
      simp only [liveKeys] at others
      simp only [liveKeys, List.set_cons_succ, List.filter_cons]
      split <;> simp [others]

/-- Whether the parameter packet is still answered makes no difference for the live keys. -/
theorem liveKeys_closeRpc (session : Session) (index : Nat) (perSigner : MultiSignPerSignerState)
    (paraPrefixRegistered : Bool) :
    liveKeys (session.closeRpc index { perSigner with paraPrefixRegistered }).rpcs =
      liveKeys (session.closeRpc index perSigner).rpcs :=
  liveKeys_set_ended session.rpcs index rfl rfl

/-- A remote call that goes on keeps its key among the live ones. -/
theorem liveKeys_proceed {rpcs : List MultiSignPerSignerState} {index : Nat}
    {perSigner other : MultiSignPerSignerState} (found : rpcs[index]? = some perSigner)
    (sameKey : other.signerKeyName = perSigner.signerKeyName)
    (sameLive : other.live = perSigner.live) :
    liveKeys (rpcs.set index other) = liveKeys rpcs := by
  -- Around its place the list is the same, and there the filter decides as before.
  obtain ⟨before, later, split, -, set⟩ := exists_split_of_getElem? found
  rw [set, split]
  simp only [liveKeys, List.filter_append, List.filter_cons, sameLive, List.map_append]
  cases perSigner.live <;> simp [sameKey]

/-- New remote calls wait for their acknowledgements. -/
theorem liveKeys_newRpcs (libs : Libraries SecretKey PublicKey Signature)
    (initiatorPrefix : Name) (toBeSigned : Data) (signingKeyName : Name)
    (draws : Name → RpcDraw) (names : List Name) :
    liveKeys (names.map fun name => Session.newRpc libs initiatorPrefix toBeSigned
      signingKeyName name (draws name)) = names := by
  induction names with
  | nil => rfl
  | cons name rest ih => exact congrArg (name :: ·) ih

namespace Session

/-- The keys whose signatures the session has. -/
def collectedKeys (session : Session) : List Name :=
  (collectedPairs session.history).map Prod.fst

/-- The keys that are asked or have answered are different signers of the session, the signatures
are those of the keys that have answered, and the packet to be signed says how it is signed. -/
structure Coherent (session : Session) : Prop where
  signers_nodup : session.global.signers.Nodup
  distinct : (liveKeys session.rpcs ++ session.collectedKeys).Nodup
  listed : ∀ name ∈ liveKeys session.rpcs ++ session.collectedKeys, name ∈ session.global.signers
  pieces : session.global.fetchedSignatures = (collectedPairs session.history).map Prod.snd
  hasInfo : session.global.toBeSigned.signatureInfo.isSome = true

namespace Coherent

variable {session : Session}

/-- There are as many signatures as keys that have answered. -/
theorem length_fetched (coherent : session.Coherent) :
    session.global.fetchedSignatures.length = session.collectedKeys.length := by
  rw [coherent.pieces, List.length_map, collectedKeys, List.length_map]

/-- There are at most as many signatures as signers. -/
theorem length_fetched_le (coherent : session.Coherent) :
    session.global.fetchedSignatures.length ≤ session.global.signers.length := by
  -- The collected keys are different, and all of them are signers of the session.
  have distinct := (List.nodup_append.mp coherent.distinct).2.1
  have inside : ∀ name ∈ session.collectedKeys, name ∈ session.global.signers :=
    fun name member => coherent.listed name (List.mem_append_right _ member)
  rw [coherent.length_fetched]
  exact (distinct.subperm inside).length_le

/-- Ending one waiting call leaves its key beside those still asked or answered. -/
theorem closed (coherent : session.Coherent) {index : Nat}
    {perSigner : MultiSignPerSignerState} (found : session.rpcs[index]? = some perSigner)
    (live : perSigner.live = true) :
    (perSigner.signerKeyName ::
        (liveKeys (session.closeRpc index perSigner).rpcs ++ session.collectedKeys)).Nodup ∧
      ∀ name ∈ perSigner.signerKeyName ::
          (liveKeys (session.closeRpc index perSigner).rpcs ++ session.collectedKeys),
        name ∈ session.global.signers := by
  -- Taking a key away leaves the others different.
  have perm := (liveKeys_close found live).append_right session.collectedKeys
  exact ⟨perm.nodup_iff.mp coherent.distinct,
    fun name member => coherent.listed name (perm.mem_iff.mpr member)⟩

/-- A session that ends a remote call without a signature stays coherent. -/
theorem of_closed (coherent : session.Coherent) {index : Nat}
    {perSigner : MultiSignPerSignerState} (found : session.rpcs[index]? = some perSigner)
    (live : perSigner.live = true) {paraPrefixRegistered : Bool} {history : List Call}
    (same : collectedPairs history = collectedPairs session.history) :
    ({ session.closeRpc index { perSigner with paraPrefixRegistered } with
      history } : Session).Coherent := by
  -- Its key is no longer live, and the others are as different as before.
  obtain ⟨distinct, listed⟩ := coherent.closed found live
  have keys : ({ session.closeRpc index { perSigner with paraPrefixRegistered } with
      history } : Session).collectedKeys = session.collectedKeys := by
    simp only [collectedKeys, same]
  have ended := liveKeys_closeRpc session index perSigner paraPrefixRegistered
  refine ⟨coherent.signers_nodup, ?_, fun name member => ?_, ?_, coherent.hasInfo⟩
  · rw [keys, ended]
    exact (List.nodup_cons.mp distinct).2
  · rw [keys, ended] at member
    exact listed name (List.mem_cons_of_mem _ member)
  · rw [same]
    exact coherent.pieces

/-- A session that ends a remote call with a signature stays coherent. -/
theorem of_collected (coherent : session.Coherent) {index : Nat}
    {perSigner : MultiSignPerSignerState} (found : session.rpcs[index]? = some perSigner)
    (live : perSigner.live = true) {piece : Buffer} {renewed : Session}
    (rpcs : renewed.rpcs = (session.closeRpc index perSigner).rpcs)
    (signers : renewed.global.signers = session.global.signers)
    (fetched : renewed.global.fetchedSignatures = session.global.fetchedSignatures ++ [piece])
    (pairs : collectedPairs renewed.history =
      collectedPairs session.history ++ [(perSigner.signerKeyName, piece)])
    (info : renewed.global.toBeSigned.signatureInfo = session.global.toBeSigned.signatureInfo) :
    renewed.Coherent := by
  obtain ⟨distinct, listed⟩ := coherent.closed found live
  -- The key moves from the live ones to the collected ones.
  have keys : renewed.collectedKeys = session.collectedKeys ++ [perSigner.signerKeyName] := by
    rw [collectedKeys, pairs, List.map_append]
    rfl
  have perm : (liveKeys renewed.rpcs ++ renewed.collectedKeys).Perm (perSigner.signerKeyName ::
      (liveKeys (session.closeRpc index perSigner).rpcs ++ session.collectedKeys)) := by
    rw [rpcs, keys, ← List.append_assoc]
    exact List.perm_append_singleton _ _
  refine ⟨signers ▸ coherent.signers_nodup, perm.nodup_iff.mpr distinct, ?_, ?_,
    info ▸ coherent.hasInfo⟩
  · intro name member
    rw [signers]
    exact listed name (perm.mem_iff.mp member)
  · rw [fetched, pairs, List.map_append, coherent.pieces]
    rfl

/-- The last missing signature completes one of each signer, and nothing else is waited for. -/
theorem last (coherent : session.Coherent) {index : Nat} {perSigner : MultiSignPerSignerState}
    (found : session.rpcs[index]? = some perSigner) (live : perSigner.live = true)
    (enough : session.global.fetchedSignatures.length + 1 = session.global.signers.length) :
    liveKeys (session.closeRpc index perSigner).rpcs = [] ∧
      (session.collectedKeys ++ [perSigner.signerKeyName]).Perm session.global.signers := by
  obtain ⟨distinct, listed⟩ := coherent.closed found live
  rw [coherent.length_fetched] at enough
  -- Otherwise there would be more different signers than the list has.
  have bound := (distinct.subperm listed).length_le
  rw [List.length_cons, List.length_append] at bound
  have empty : liveKeys (session.closeRpc index perSigner).rpcs = [] :=
    List.length_eq_zero_iff.mp (by omega)
  rw [empty, List.nil_append] at distinct listed
  refine ⟨empty, (List.perm_append_singleton _ _).trans ?_⟩
  exact (distinct.subperm listed).perm_of_length_le (by rw [List.length_cons]; omega)

end Coherent

/-- A new session has asked every signer, and none has answered. -/
theorem startSession_eq (libs : Libraries SecretKey PublicKey Signature)
    (initiator : MPSInitiator PublicKey) (unsignedData : Data) (schema : MultipartySchema)
    (signingKeyName : Name) (keyLocatorRandomness : Nat) (rpcs : Name → RpcDraw)
    (signers : List Name) :
    let packets := prepareUnfinishedDataAndInfoData libs.tlv unsignedData
      initiator.initiatorPrefix keyLocatorRandomness
    initiator.startSession libs unsignedData schema signingKeyName keyLocatorRandomness rpcs
        signers =
      { global :=
          { signers, schema, toBeSigned := packets.1, signInfo := packets.2
            fetchedSignatures := [], signingKeyName }
        rpcs := signers.map fun name => newRpc libs initiator.initiatorPrefix packets.1
          signingKeyName name (rpcs name)
        history := (if signers.isEmpty then
          [.failureCb "No sufficient number of known signers."] else []) ++
            signers.map .performRPC } := by
  simp only [MPSInitiator.startSession, performRPCs_eq, List.nil_append]

/-- A new session is coherent. -/
theorem startSession_coherent {libs : Libraries SecretKey PublicKey Signature}
    {initiator : MPSInitiator PublicKey} {unsignedData : Data} {schema : MultipartySchema}
    {signingKeyName : Name} {keyLocatorRandomness : Nat} {rpcs : Name → RpcDraw}
    {signers : List Name}
    (selected : initiator.schemaContainer.getAvailableSigners schema = .ok signers) :
    (initiator.startSession libs unsignedData schema signingKeyName keyLocatorRandomness rpcs
      signers).Coherent := by
  -- The selection lists nobody twice, and nothing has been collected yet.
  obtain ⟨distinct, -, -⟩ := MultipartySchemaContainer.getAvailableSigners_sound selected
  have none : collectedPairs ((if signers.isEmpty then
      [.failureCb "No sufficient number of known signers."] else []) ++
        signers.map .performRPC) = [] := by
    rw [collectedPairs_append, collectedPairs_performRPC]
    split <;> rfl
  rw [startSession_eq]
  refine ⟨distinct, ?_, ?_, ?_, rfl⟩
  · simp only [collectedKeys, none, liveKeys_newRpcs]
    simpa using distinct
  · simp only [collectedKeys, none, liveKeys_newRpcs]
    simp
  · simp only [none]
    rfl

/-- A new session has handed nothing over. -/
theorem startSession_atSuccess {libs : Libraries SecretKey PublicKey Signature}
    {holds : List Call → Data → Data → Prop} (initiator : MPSInitiator PublicKey)
    (unsignedData : Data) (schema : MultipartySchema) (signingKeyName : Name)
    (keyLocatorRandomness : Nat) (rpcs : Name → RpcDraw) (signers : List Name) :
    History.EachTime (AtSuccess holds) (initiator.startSession libs unsignedData schema
      signingKeyName keyLocatorRandomness rpcs signers).history := by
  rw [startSession_eq]
  refine atSuccess_append ?_ (by simp)
  split
  · exact History.eachTime_concat.mpr ⟨History.eachTime_nil, trivial⟩
  · exact History.eachTime_nil

/-- Every move keeps a session coherent. -/
theorem Move.coherent {libs : Libraries SecretKey PublicKey Signature} {initiatorPrefix : Name}
    {container after : MultipartySchemaContainer PublicKey} {session renewed : Session}
    {index : Nat} {perSigner : MultiSignPerSignerState} {reaction : Reaction}
    (move : session.Move libs initiatorPrefix container index perSigner reaction after renewed)
    (found : session.rpcs[index]? = some perSigner) (fits : reaction.Fits perSigner)
    (coherent : session.Coherent) : renewed.Coherent := by
  -- A key is asked, has delivered, or is gone, and each move takes it from one to the next.
  cases move with
  | abandoned => exact coherent.of_closed found fits rfl
  | proceeded other tpm put =>
    have same := liveKeys_proceed found fits.1 fits.2
    refine ⟨coherent.signers_nodup, ?_, ?_, coherent.pieces, coherent.hasInfo⟩
    · simp only [setRpc, collectedKeys, same]
      exact coherent.distinct
    · simp only [setRpc, collectedKeys, same]
      exact coherent.listed
  | collected missing =>
    refine coherent.of_collected found fits rfl rfl rfl ?_ rfl
    simp [collectedPairs]
  | finished enough aggregated signed announced =>
    refine coherent.of_collected found fits rfl rfl rfl ?_ ?_
    · simp [collectedPairs]
    · rw [signed]
  | failed needed =>
    refine coherent.of_closed found fits ?_
    simp [collectedPairs]
  | @replaced reason newSigners diffSigners draws renews =>
    obtain ⟨distinct, listed⟩ := coherent.closed found fits
    obtain ⟨lost, distinct⟩ := List.nodup_cons.mp distinct
    have live : liveKeys ((session.closeRpc index perSigner).rpcs ++ diffSigners.map
        fun name => newRpc libs initiatorPrefix session.global.toBeSigned
          session.global.signingKeyName name (draws name)) =
        liveKeys (session.closeRpc index perSigner).rpcs ++ diffSigners := by
      rw [liveKeys_append, liveKeys_newRpcs]
    have same := collectedPairs_replaced session.history index perSigner.signerKeyName diffSigners
    -- The new keys are none of the old signers, and the lost key is neither asked nor collected.
    have perm : (liveKeys (session.closeRpc index perSigner).rpcs ++ diffSigners ++
        session.collectedKeys).Perm (liveKeys (session.closeRpc index perSigner).rpcs ++
          session.collectedKeys ++ diffSigners) := by
      simp only [List.append_assoc]
      exact List.perm_append_comm.append_left _
    refine ⟨renews.signers_nodup, ?_, fun name member => ?_, ?_, coherent.hasInfo⟩
    · simp only [live, collectedKeys, same]
      refine perm.nodup_iff.mpr (List.Nodup.append distinct renews.diff_nodup ?_)
      intro name old new
      exact renews.fresh name new (listed name (List.mem_cons_of_mem _ old))
    · simp only [live, collectedKeys, same] at member
      rw [renews.mem_iff]
      rcases List.mem_append.mp (perm.mem_iff.mp member) with old | new
      · refine .inl ⟨fun equal => lost (equal ▸ old), ?_⟩
        exact listed name (List.mem_cons_of_mem _ old)
      · exact .inr new
    · simp only [same]
      exact coherent.pieces

/-- No move changes the trusted keys. -/
theorem Move.trustedIds_eq {libs : Libraries SecretKey PublicKey Signature}
    {initiatorPrefix : Name} {container after : MultipartySchemaContainer PublicKey}
    {session renewed : Session} {index : Nat} {perSigner : MultiSignPerSignerState}
    {reaction : Reaction}
    (move : session.Move libs initiatorPrefix container index perSigner reaction after renewed) :
    after.trustedIds = container.trustedIds := by
  cases move <;> rfl

/-- No move makes an unavailable key available again. -/
theorem Move.unavailable_mono {libs : Libraries SecretKey PublicKey Signature}
    {initiatorPrefix : Name} {container after : MultipartySchemaContainer PublicKey}
    {session renewed : Session} {index : Nat} {perSigner : MultiSignPerSignerState}
    {reaction : Reaction}
    (move : session.Move libs initiatorPrefix container index perSigner reaction after renewed)
    {name : Name} (unavailable : name ∈ container.unavailableSigners) :
    name ∈ after.unavailableSigners := by
  -- Only a loss touches the set, and it inserts.
  cases move with
  | failed needed => exact SortedSet.mem_insert.mpr (.inr unavailable)
  | replaced draws renews => exact SortedSet.mem_insert.mpr (.inr unavailable)
  | _ => exact unavailable

end Session

namespace MPSInitiator

variable {libs : Libraries SecretKey PublicKey Signature}

/-- The event lets one remote call of a session react. -/
def Handles (libs : Libraries SecretKey PublicKey Signature) (initiator : MPSInitiator PublicKey)
    (event : Event Signature) (session : Session) (index : Nat)
    (perSigner : MultiSignPerSignerState) (reaction : Reaction) : Prop :=
  ∃ sessionIndex rpcEvent draw, event = .rpc sessionIndex index rpcEvent draw ∧
    initiator.sessions[sessionIndex]? = some session ∧
    session.rpcs[index]? = some perSigner ∧
    react libs initiator.tpm session.global.signingKeyName perSigner draw rpcEvent = some reaction

/-- An initiator that nobody has used yet has no session for which a statement could fail. -/
theorem of_unused {initiator : MPSInitiator PublicKey} (unused : initiator.sessions = [])
    (holds : Session → Prop) : ∀ session ∈ initiator.sessions, holds session := by
  intro session member
  rw [unused] at member
  cases member

/-- What a run leaves of its sessions belongs to some session of its last state. -/
theorem exists_session {α : Type} {initiator : MPSInitiator PublicKey}
    {events : List (Event Signature)} {view : Session → α} {views : List α}
    (ran : (Run.after (next libs) events initiator).map (fun final => final.sessions.map view) =
      some views) {seen : α} (listed : seen ∈ views) :
    ∃ final session, Run.after (next libs) events initiator = some final ∧
      session ∈ final.sessions ∧ view session = seen := by
  obtain ⟨final, run, same⟩ := Option.map_eq_some_iff.mp ran
  rw [← same] at listed
  obtain ⟨session, member, viewed⟩ := List.mem_map.mp listed
  exact ⟨final, session, run, member, viewed⟩

namespace Step

variable {initiator after : MPSInitiator PublicKey} {event : Event Signature}

/-- A statement about the sessions in their places holds after a step if new sessions have it, moves
keep it, and it does not depend on what other sessions do to the container. -/
theorem keeps_at (inv : Nat → MultipartySchemaContainer PublicKey → Session → Prop)
    (step : Step libs initiator event after)
    (start : ∀ unsignedData schema signingKeyName keyLocatorRandomness rpcs signers,
      initiator.schemaContainer.getAvailableSigners schema = .ok signers →
      inv initiator.sessions.length initiator.schemaContainer (initiator.startSession libs
        unsignedData schema signingKeyName keyLocatorRandomness rpcs signers))
    (transport : ∀ position session, inv position initiator.schemaContainer session →
      inv position after.schemaContainer session)
    (move : ∀ position session index perSigner reaction renewed,
      inv position initiator.schemaContainer session →
      initiator.Handles libs event session index perSigner reaction →
      session.Move libs initiator.initiatorPrefix initiator.schemaContainer index perSigner
        reaction after.schemaContainer renewed →
      inv position after.schemaContainer renewed)
    (all : ∀ position session, initiator.sessions[position]? = some session →
      inv position initiator.schemaContainer session) :
    ∀ position session, after.sessions[position]? = some session →
      inv position after.schemaContainer session := by
  -- Sessions are only added at the end, and only one at a time is renewed.
  cases step with
  | refused => exact all
  | started selected =>
    intro position session located
    rw [List.getElem?_append] at located
    split at located
    · exact all position session located
    · rename_i beyond
      obtain ⟨inside, same⟩ := List.getElem?_eq_some_iff.mp located
      simp only [List.length_singleton] at inside
      have last : position = initiator.sessions.length := by omega
      subst last
      rw [← same, List.getElem_singleton]
      exact start _ _ _ _ _ _ selected
  | reset => exact fun position session located =>
      transport position session (all position session located)
  | stopped located found reacted => exact all
  | @moved sessionIndex index moving renewed perSigner rpcEvent draw reaction _ located found
      reacted moved sessions =>
    intro position session there
    rw [sessions] at there
    by_cases same : sessionIndex = position
    · subst same
      rw [List.getElem?_set_self (List.getElem?_eq_some_iff.mp located).1] at there
      cases there
      exact move _ _ _ _ _ _ (all _ _ located) ⟨_, _, _, rfl, located, found, reacted⟩ moved
    · rw [List.getElem?_set_ne same] at there
      exact transport position session (all position session there)

/-- A statement about sessions holds after a step if new sessions have it, moves keep it, and it
does not depend on what other sessions do to the container. -/
theorem keeps (inv : MultipartySchemaContainer PublicKey → Session → Prop)
    (step : Step libs initiator event after)
    (start : ∀ unsignedData schema signingKeyName keyLocatorRandomness rpcs signers,
      initiator.schemaContainer.getAvailableSigners schema = .ok signers →
      inv initiator.schemaContainer (initiator.startSession libs unsignedData schema
        signingKeyName keyLocatorRandomness rpcs signers))
    (transport : ∀ session, inv initiator.schemaContainer session →
      inv after.schemaContainer session)
    (move : ∀ session index perSigner reaction renewed, inv initiator.schemaContainer session →
      initiator.Handles libs event session index perSigner reaction →
      session.Move libs initiator.initiatorPrefix initiator.schemaContainer index perSigner
        reaction after.schemaContainer renewed →
      inv after.schemaContainer renewed)
    (all : ∀ session ∈ initiator.sessions, inv initiator.schemaContainer session) :
    ∀ session ∈ after.sessions, inv after.schemaContainer session := by
  intro session member
  obtain ⟨position, located⟩ := List.mem_iff_getElem?.mp member
  -- The place of a session does not matter here.
  exact step.keeps_at (fun _ => inv) start (fun _ => transport) (fun _ => move)
    (fun _ session located => all session (List.mem_of_getElem? located)) position session located

/-- Where a move keeps a statement exactly on a condition, a step keeps it for all sessions
exactly when the reaction it handles meets the condition. -/
theorem decides (holds : Session → Prop)
    (meets : Session → Nat → MultiSignPerSignerState → Reaction → Prop)
    (step : Step libs initiator event after)
    (start : ∀ unsignedData schema signingKeyName keyLocatorRandomness rpcs signers,
      initiator.schemaContainer.getAvailableSigners schema = .ok signers →
      holds (initiator.startSession libs unsignedData schema signingKeyName keyLocatorRandomness
        rpcs signers))
    (stop : ∀ session index perSigner liveness, meets session index perSigner (.stop liveness))
    (move : ∀ session index perSigner reaction renewed, session ∈ initiator.sessions →
      session.rpcs[index]? = some perSigner → reaction.Fits perSigner →
      session.Move libs initiator.initiatorPrefix initiator.schemaContainer index perSigner
        reaction after.schemaContainer renewed →
      (holds renewed ↔ meets session index perSigner reaction))
    (all : ∀ session ∈ initiator.sessions, holds session) :
    (∀ session ∈ after.sessions, holds session) ↔
      ∀ session index perSigner reaction,
        initiator.Handles libs event session index perSigner reaction →
        meets session index perSigner reaction := by
  -- Only a reaction of a remote call is subject to the condition.
  cases step with
  | refused =>
    refine ⟨fun _ => ?_, fun _ => all⟩
    rintro session index perSigner reaction ⟨_, _, _, impossible, -⟩
    cases impossible
  | started selected =>
    constructor
    · rintro - session index perSigner reaction ⟨_, _, _, impossible, -⟩
      cases impossible
    · intro _ session member
      rcases List.mem_append.mp member with old | new
      · exact all session old
      · rw [List.mem_singleton.mp new]
        exact start _ _ _ _ _ _ selected
  | reset =>
    refine ⟨fun _ => ?_, fun _ => all⟩
    rintro session index perSigner reaction ⟨_, _, _, impossible, -⟩
    cases impossible
  | stopped located found reacted =>
    refine ⟨fun _ => ?_, fun _ => all⟩
    rintro session index perSigner reaction ⟨_, _, _, same, otherLocated, otherFound, otherReacted⟩
    cases same
    -- Both reactions are to the same event, so they are the same.
    cases located.symm.trans otherLocated
    cases found.symm.trans otherFound
    cases reacted.symm.trans otherReacted
    exact stop _ _ _ _
  | @moved sessionIndex index session renewed perSigner rpcEvent draw reaction _ located found
      reacted moved sessions =>
    have decision := move session index perSigner reaction renewed
      (List.mem_of_getElem? located) found (react_fits reacted) moved
    have present : renewed ∈ after.sessions := by
      rw [sessions]
      exact List.mem_set (List.getElem?_eq_some_iff.mp located).1 renewed
    constructor
    · rintro every other otherIndex otherPerSigner otherReaction
        ⟨_, _, _, same, otherLocated, otherFound, otherReacted⟩
      cases same
      cases located.symm.trans otherLocated
      cases found.symm.trans otherFound
      cases reacted.symm.trans otherReacted
      exact decision.mp (every renewed present)
    · intro condition other member
      rw [sessions] at member
      rcases List.mem_or_eq_of_mem_set member with old | new
      · exact all other old
      · rw [new]
        exact decision.mpr (condition session index perSigner reaction
          ⟨_, _, _, rfl, located, found, reacted⟩)

/-- Every step keeps all sessions coherent. -/
theorem coherent (step : Step libs initiator event after)
    (all : ∀ session ∈ initiator.sessions, session.Coherent) :
    ∀ session ∈ after.sessions, session.Coherent := by
  refine step.keeps (fun _ session => session.Coherent)
    (fun _ _ _ _ _ _ selected => Session.startSession_coherent selected)
    (fun _ coherent => coherent) ?_ all
  rintro session index perSigner reaction renewed coherent ⟨_, _, _, -, -, found, reacted⟩ move
  exact move.coherent found (react_fits reacted) coherent

/-- No step changes the trusted keys. -/
theorem trustedIds_eq (step : Step libs initiator event after) :
    after.schemaContainer.trustedIds = initiator.schemaContainer.trustedIds := by
  cases step with
  | moved located found reacted move sessions => exact move.trustedIds_eq
  | _ => rfl

end Step

end MPSInitiator

end NdnMps
