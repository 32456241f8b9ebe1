import Mathlib.Algebra.BigOperators.Group.Finset.Basic
import Mathlib.Algebra.Order.BigOperators.Group.Finset
import NdnMps.System.Assembly
import NdnMps.System.Turns

/-! A whole session with honest signers: every event keeps it on course and brings it closer to
its end, and until then some event can happen. -/

namespace NdnMps

variable {SecretKey PublicKey Signature : Type}

namespace World

/-- The events that the exchange of an index still needs at most. -/
def workAt (world : World PublicKey) (index : Nat) : Nat :=
  match world.perSigner index, world.links[index]? with
  | some perSigner, some link => link.work perSigner
  | _, _ => 0

/-- The events that all exchanges together still need at most. -/
def work (world : World PublicKey) : Nat := ∑ index ∈ Finset.range world.links.length,
  world.workAt index

/-- A world whose session is on course, with the exchanges of all its remote calls. -/
structure OnCourse (libs : Libraries SecretKey PublicKey Signature)
    (signerOf : Name → BLSSigner SecretKey) (start : MultiSignGlobalState)
    (world : World PublicKey) (session : Session) : Prop where
  running : world.initiator.liveness = .running
  located : world.initiator.sessions[world.session]? = some session
  aligned : world.links.length = session.rpcs.length
  course : session.OnCourse libs (fun name =>
    libs.bls.ndnGenBLSSignature libs.tlv (signerOf name).secretKey start.toBeSigned) start
  stages : ∀ (index : Nat) (perSigner : MultiSignPerSignerState) (link : Link),
    session.rpcs[index]? = some perSigner → world.links[index]? = some link →
      Stage libs (signerOf perSigner.signerKeyName) start.toBeSigned world.initiator.tpm perSigner
        link

variable {libs : Libraries SecretKey PublicKey Signature}
variable {signerOf : Name → BLSSigner SecretKey} {polls : Name → Nat}
variable {start : MultiSignGlobalState} {world after : World PublicKey} {session : Session}

/-- The work of a remote call of the session on its link. -/
theorem workAt_eq (located : world.initiator.sessions[world.session]? = some session)
    (index : Nat) : world.workAt index = match session.rpcs[index]?, world.links[index]? with
      | some perSigner, some link => link.work perSigner
      | _, _ => 0 := by
  simp only [workAt, perSigner, located, Option.bind_some]

/-- Less work on one link is less work altogether. -/
theorem work_lt_of_set {renewed : Session} {index : Nat}
    {perSigner other : MultiSignPerSignerState} {link further : Link}
    (located : world.initiator.sessions[world.session]? = some session)
    (goesOn : after.initiator.sessions[after.session]? = some renewed)
    (found : session.rpcs[index]? = some perSigner) (linked : world.links[index]? = some link)
    (rpcs : renewed.rpcs = session.rpcs.set index other)
    (links : after.links = world.links.set index further)
    (closer : further.work other < link.work perSigner) : after.work < world.work := by
  have present := (List.getElem?_eq_some_iff.mp found).1
  have linkPresent := (List.getElem?_eq_some_iff.mp linked).1
  -- The other links and remote calls keep their part of the work.
  have less : after.workAt index < world.workAt index := by
    rw [workAt_eq located, workAt_eq goesOn, rpcs, links, found, linked,
      List.getElem?_set_self present, List.getElem?_set_self linkPresent]
    exact closer
  simp only [work, links, List.length_set]
  apply Finset.sum_lt_sum
  · intro position _
    by_cases same : index = position
    · subst same
      exact less.le
    · rw [workAt_eq located, workAt_eq goesOn, rpcs, links, List.getElem?_set_ne same,
        List.getElem?_set_ne same]
  · exact ⟨index, Finset.mem_range.mpr linkPresent, less⟩

/-- A turn of one exchange keeps the world on course and leaves less to do. -/
theorem OnCourse.turn (course : world.OnCourse libs signerOf start session) {index : Nat}
    {perSigner : MultiSignPerSignerState} {link : Link}
    (found : session.rpcs[index]? = some perSigner) (linked : world.links[index]? = some link)
    (turn : Turn libs (signerOf perSigner.signerKeyName) start.toBeSigned world session index
      perSigner link after) :
    ∃ renewed, after.OnCourse libs signerOf start renewed ∧ after.session = world.session ∧
      after.work < world.work := by
  cases turn with
  | @turned reaction renewed further tpm fits genuine move subset stage closer =>
    -- The session and its link are where the turn has left them.
    have inside := (List.getElem?_eq_some_iff.mp course.located).1
    have present := (List.getElem?_eq_some_iff.mp found).1
    have linkPresent := (List.getElem?_eq_some_iff.mp linked).1
    have rpcs := move.rpcs_eq genuine
    have located : (world.initiator.sessions.set world.session renewed)[world.session]? =
        some renewed := List.getElem?_set_self inside
    -- No reaction changes the signer of a remote call.
    have sameKey : (reaction.remaining perSigner).signerKeyName = perSigner.signerKeyName := by
      cases reaction with
      | proceed other tpm put => exact fits.1
      | _ => rfl
    -- The work is less because the link is closer to its end.
    refine ⟨renewed, ⟨course.running, located, ?_, course.course.move move found fits genuine,
      ?_⟩, rfl, ?_⟩
    · rw [List.length_set, rpcs, List.length_set, course.aligned]
    · -- The link of the turn is at a new stage, and every other link is where it was.
      intro other item itsLink itemFound linkFound
      rw [rpcs] at itemFound
      by_cases same : index = other
      · subst same
        rw [List.getElem?_set_self present] at itemFound
        rw [List.getElem?_set_self linkPresent] at linkFound
        cases itemFound
        cases linkFound
        rw [sameKey]
        exact stage
      · rw [List.getElem?_set_ne same] at itemFound linkFound
        exact (course.stages other item itsLink itemFound linkFound).mono subset
    · exact work_lt_of_set course.located located found linked rpcs rfl closer

/-- What the signers of a session must do for it: accept the packet to be signed. -/
def AcceptsData (signerOf : Name → BLSSigner SecretKey) (start : MultiSignGlobalState) : Prop :=
  ∀ name ∈ start.signers, (signerOf name).verifyToBeSigned start.toBeSigned = true

/-- Every event keeps the world on course and leaves less to do. -/
theorem OnCourse.next (lossless : libs.tlv.Lossless) (matching : libs.ssl.Matching)
    (verifies : libs.keyChain.Verifies) (hasInfo : start.toBeSigned.signatureInfo.isSome)
    (hasValue : start.toBeSigned.signatureValue.isSome) (accepts : AcceptsData signerOf start)
    (course : world.OnCourse libs signerOf start session) {event : Nat × LinkEvent Signature}
    (taken : world.next libs signerOf polls event = some after) :
    ∃ renewed, after.OnCourse libs signerOf start renewed ∧ after.session = world.session ∧
      after.work < world.work := by
  obtain ⟨index, event⟩ := event
  obtain ⟨perSigner, found, taken⟩ := Option.bind_eq_some_iff.mp taken
  obtain ⟨link, linked, taken⟩ := Option.bind_eq_some_iff.mp taken
  split at taken
  rotate_left
  · cases taken
  rename_i ordered
  rw [World.perSigner, course.located, Option.bind_some] at found
  have stage := course.stages index perSigner link found linked
  have listed : perSigner.signerKeyName ∈ start.signers := by
    rw [← course.course.keys]
    exact List.mem_map_of_mem (List.mem_of_getElem? found)
  refine course.turn found linked ?_
  -- Each event is a turn of its exchange.
  cases event with
  | interest draw =>
    exact .interest lossless matching verifies course.located found stage ordered taken
  | reply draw => exact .reply course.running course.located found course.aligned stage taken
  | fetch draw =>
    exact .fetch course.running course.located found course.aligned stage ordered taken
  | parameter =>
    exact .parameter lossless matching verifies hasInfo hasValue course.located found
      (accepts _ listed) stage taken
  | fetchResult draw =>
    exact .fetchResult lossless course.running course.located found course.aligned stage ordered
      taken

/-- A run keeps the world on course, and has no more events than there was work. -/
theorem OnCourse.run (lossless : libs.tlv.Lossless) (matching : libs.ssl.Matching)
    (verifies : libs.keyChain.Verifies) (hasInfo : start.toBeSigned.signatureInfo.isSome)
    (hasValue : start.toBeSigned.signatureValue.isSome) (accepts : AcceptsData signerOf start)
    (course : world.OnCourse libs signerOf start session)
    {events : List (Nat × LinkEvent Signature)}
    (run : Run.after (World.next libs signerOf polls) events world = some after) :
    ∃ renewed, after.OnCourse libs signerOf start renewed ∧ after.session = world.session ∧
      events.length ≤ world.work := by
  -- Every event lowers the work, which is at least zero in the end.
  obtain ⟨⟨renewed, kept, place⟩, bound⟩ := Run.length_le
    (fun state : World PublicKey => ∃ renewed, state.OnCourse libs signerOf start renewed ∧
      state.session = world.session) work
    (by
      rintro state event next ⟨renewed, kept, place⟩ taken
      obtain ⟨further, onCourse, same, less⟩ := kept.next lossless matching verifies hasInfo
        hasValue accepts taken
      exact ⟨⟨further, onCourse, same.trans place⟩, less⟩)
    ⟨session, course, rfl⟩ run
  exact ⟨renewed, kept, place, by omega⟩

end World

end NdnMps
