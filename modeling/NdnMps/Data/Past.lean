import Mathlib.Data.List.Induction
import NdnMps.Data.Run

/-! States and the events that have led to them: invariants that remember the run, and marks that
events set and clear. -/

namespace Run

variable {State Event : Type*} {step : State → Event → Option State}

/-- A run takes its last step where the events before have led. -/
theorem after_concat (events : List Event) (event : Event) (start : State) :
    after step (events ++ [event]) start =
      (after step events start).bind fun state => step state event := by
  rw [after_append]
  refine Option.bind_congr fun state _ => ?_
  cases taken : step state event <;> simp [after, taken]

/-- What every step preserves of a state and the events that have led to it holds at the end of a
run. -/
theorem always_past {start : State} {inv : List Event → State → Prop}
    (kept : ∀ past state event next, after step past start = some state → inv past state →
      step state event = some next → inv (past ++ [event]) next)
    (initial : inv [] start) {events : List Event} {final : State}
    (run : after step events start = some final) : inv events final := by
  -- Induction on the events from their end, where the last step is taken.
  induction events using List.reverseRecOn generalizing final with
  | nil =>
    cases run
    exact initial
  | append_singleton past event ih =>
    rw [after_concat] at run
    obtain ⟨state, begun, taken⟩ := Option.bind_eq_some_iff.mp run
    exact kept past state event final begun (ih begun) taken

/-- Two conditions that every step meets are met together. -/
theorem EveryStep.and {left right : State → Event → Prop} {events : List Event} {start : State}
    (first : EveryStep step left events start) (second : EveryStep step right events start) :
    EveryStep step (fun state event => left state event ∧ right state event) events start := by
  -- Induction on the events, for the steps that both statements speak of.
  induction events generalizing start with
  | nil => trivial
  | cons event rest ih =>
    exact ⟨⟨first.1, second.1⟩, fun next taken => ih (first.2 next taken) (second.2 next taken)⟩

/-- What every step meets, it meets also where that is asked for on some assumption only. -/
theorem EveryStep.of_imp {assumed : Prop} {meets : State → Event → Prop} {events : List Event}
    {start : State} (every : assumed → EveryStep step meets events start) :
    EveryStep step (fun state event => assumed → meets state event) events start := by
  -- Induction on the events, with the assumption made anew for each of them.
  induction events generalizing start with
  | nil => trivial
  | cons event rest ih =>
    exact ⟨fun holds => (every holds).1,
      fun next taken => ih fun holds => (every holds).2 next taken⟩

/-- Something set a mark in a run, or had set it before, and nothing has cleared it since. -/
def Marked (step : State → Event → Option State) (sets : State → Event → Prop)
    (clears : Event → Prop) (events : List Event) (start : State) (before : Prop) : Prop :=
  (before ∧ ∀ event ∈ events, ¬ clears event) ∨
    ∃ earlier event later middle, events = earlier ++ event :: later ∧
      after step earlier start = some middle ∧ sets middle event ∧
      ∀ other ∈ later, ¬ clears other

section Marked

variable {sets : State → Event → Prop} {clears : Event → Prop} {start : State} {before : Prop}

/-- Without events there is only the mark of before. -/
@[simp] theorem marked_nil : Marked step sets clears [] start before ↔ before := by
  constructor
  · rintro (⟨set, -⟩ | ⟨earlier, event, later, -, split, -⟩)
    · exact set
    · simp at split
  · exact fun set => .inl ⟨set, by simp⟩

/-- The last event sets the mark, or leaves it as it is, or clears it. -/
theorem marked_concat {events : List Event} {event : Event} {state : State}
    (begun : after step events start = some state) :
    Marked step sets clears (events ++ [event]) start before ↔
      sets state event ∨ (Marked step sets clears events start before ∧ ¬ clears event) := by
  constructor
  · rintro (⟨set, kept⟩ | ⟨earlier, other, later, middle, split, reached, set, kept⟩)
    · exact .inr ⟨.inl ⟨set, fun other member => kept other (List.mem_append_left _ member)⟩,
        kept event (by simp)⟩
    · -- The event that set the mark is the last one, or one of those before it.
      rcases List.eq_nil_or_concat later with rfl | ⟨rest, last, rfl⟩
      · obtain ⟨same, last⟩ := List.append_inj' split rfl
        cases last
        cases (same ▸ begun).symm.trans reached
        exact .inl set
      · rw [List.concat_eq_append, ← List.cons_append, ← List.append_assoc] at split
        obtain ⟨same, equal⟩ := List.append_inj' split rfl
        cases equal
        refine .inr ⟨.inr ⟨earlier, other, rest, middle, same, reached, set, fun one member => ?_⟩,
          kept event (by simp)⟩
        exact kept one (by simp [member])
  · -- What the last event does not clear has been set by it, before the run, or in it.
    rintro (set | ⟨⟨set, kept⟩ | ⟨earlier, other, later, middle, split, reached, set, kept⟩, last⟩)
    · exact .inr ⟨events, event, [], state, rfl, begun, set, by simp⟩
    · exact .inl ⟨set, List.forall_mem_append.mpr ⟨kept, by simpa using last⟩⟩
    · exact .inr ⟨earlier, other, later ++ [event], middle, by simp [split], reached, set,
        List.forall_mem_append.mpr ⟨kept, by simpa using last⟩⟩

/-- A flag that the setting events raise and the clearing ones lower is the mark they leave. -/
theorem flag_iff_marked {flag : State → Prop}
    (decided : ∀ state event next, step state event = some next →
      (flag next ↔ sets state event ∨ (flag state ∧ ¬ clears event)))
    {events : List Event} {final : State} (run : after step events start = some final) :
    flag final ↔ Marked step sets clears events start (flag start) := by
  -- The events so far are kept along, since a mark is a statement about all of them.
  have kept : ∀ past state event next, after step past start = some state →
      (flag state ↔ Marked step sets clears past start (flag start)) →
      step state event = some next →
      (flag next ↔ Marked step sets clears (past ++ [event]) start (flag start)) := by
    intro past state event next begun same taken
    rw [decided state event next taken, marked_concat begun, same]
  exact always_past kept marked_nil.symm run

end Marked

end Run
