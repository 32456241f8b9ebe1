import Mathlib.Data.List.Basic

/-! Runs of a partial step function, statements about every state or every step of a run, and runs
that keep what has happened in them. -/

namespace Run

variable {State Event : Type*} (step : State → Event → Option State)

/-- The state after some events, if each of them can happen in its turn. -/
def after : List Event → State → Option State
  | [], state => some state
  | event :: rest, state => (step state event).bind (after rest)

/-- A statement holds of every state a run visits, the first and the last included. -/
def EveryState (holds : State → Prop) : List Event → State → Prop
  | [], state => holds state
  | event :: rest, state => holds state ∧
    ∀ next, step state event = some next → EveryState holds rest next

/-- A statement holds of every step of a run, given by its state and its event. -/
def EveryStep (holds : State → Event → Prop) : List Event → State → Prop
  | [], _ => True
  | event :: rest, state => holds state event ∧
    ∀ next, step state event = some next → EveryStep holds rest next

variable {step}

/-- A longer run is a run followed by another one. -/
theorem after_append (first second : List Event) (state : State) :
    after step (first ++ second) state = (after step first state).bind (after step second) := by
  -- Induction on the first part, which may end the run as well.
  induction first generalizing state with
  | nil => rfl
  | cons event rest ih =>
    simp only [List.cons_append, after]
    cases step state event with
    | none => rfl
    | some next => exact ih next

/-- What every permitted step preserves holds at the end of a run that starts with it. -/
theorem invariant {inv : State → Prop} {permitted : State → Event → Prop}
    (kept : ∀ state event next, inv state → permitted state event →
      step state event = some next → inv next)
    {events : List Event} {start final : State} (initial : inv start)
    (allowed : EveryStep step permitted events start)
    (run : after step events start = some final) : inv final := by
  -- Induction on the events, with the invariant at the first state as a hypothesis.
  induction events generalizing start with
  | nil =>
    cases run
    exact initial
  | cons event rest ih =>
    obtain ⟨next, taken, others⟩ := Option.bind_eq_some_iff.mp run
    exact ih (kept start event next initial allowed.1 taken) (allowed.2 next taken) others

/-- A run whose every step lowers a measure is no longer than the measure. -/
theorem length_le (inv : State → Prop) (measure : State → Nat)
    (lowered : ∀ state event next, inv state → step state event = some next →
      inv next ∧ measure next < measure state)
    {events : List Event} {start final : State} (initial : inv start)
    (run : after step events start = some final) :
    inv final ∧ events.length + measure final ≤ measure start := by
  -- Induction on the events, where each step pays for itself with the measure.
  induction events generalizing start with
  | nil =>
    cases run
    exact ⟨initial, by simp⟩
  | cons event rest ih =>
    obtain ⟨next, taken, others⟩ := Option.bind_eq_some_iff.mp run
    obtain ⟨kept, less⟩ := lowered start event next initial taken
    obtain ⟨holds, bound⟩ := ih kept others
    refine ⟨holds, ?_⟩
    rw [List.length_cons]
    omega

/-- What a statement about single events gives a statement about steps. -/
theorem everyStep_of_forall {holds : State → Event → Prop} {events : List Event}
    (all : ∀ event ∈ events, ∀ state, holds state event) (start : State) :
    EveryStep step holds events start := by
  -- Induction on the events, whatever states they lead through.
  induction events generalizing start with
  | nil => trivial
  | cons event rest ih =>
    refine ⟨all event List.mem_cons_self start, fun next _ => ?_⟩
    exact ih (fun other member => all other (List.mem_cons_of_mem _ member)) next

/-- What every step preserves holds at the end of a run that starts with it. -/
theorem always {inv : State → Prop}
    (kept : ∀ state event next, inv state → step state event = some next → inv next)
    {events : List Event} {start final : State} (initial : inv start)
    (run : after step events start = some final) : inv final := by
  -- Every step is permitted.
  have every : EveryStep step (fun _ _ => True) events start :=
    everyStep_of_forall (fun _ _ _ => trivial) start
  exact invariant (fun state event next holds _ taken => kept state event next holds taken) initial
    every run

/-- What holds of every state of a run holds of the state after any part of it. -/
theorem EveryState.after_part {holds : State → Prop} {first second : List Event}
    {start middle : State} (every : EveryState step holds (first ++ second) start)
    (run : after step first start = some middle) : holds middle := by
  -- Induction on the first part, whose steps are the first ones of the run.
  induction first generalizing start with
  | nil =>
    cases run
    cases second with
    | nil => exact every
    | cons event rest => exact every.1
  | cons event rest ih =>
    obtain ⟨next, taken, others⟩ := Option.bind_eq_some_iff.mp run
    exact ih (every.2 next taken) others

/-- A run whose last state is an exception does not keep what it is an exception to. -/
theorem not_everyState {holds : State → Prop} {events : List Event} {start final : State}
    (run : after step events start = some final) (exception : ¬ holds final) :
    ¬ EveryState step holds events start := by
  intro every
  rw [← List.append_nil events] at every
  exact exception (every.after_part run)

/-- What holds of every step of a run holds of the one that comes after any part of it. -/
theorem EveryStep.after_part {holds : State → Event → Prop} (first : List Event)
    {rest : List Event} {event : Event} {start middle : State}
    (every : EveryStep step holds (first ++ event :: rest) start)
    (run : after step first start = some middle) : holds middle event := by
  -- Induction on the part, whose end is where the event happens.
  induction first generalizing start with
  | nil =>
    cases run
    exact every.1
  | cons other others ih =>
    obtain ⟨next, taken, run⟩ := Option.bind_eq_some_iff.mp run
    exact ih (every.2 next taken) run

/-- A condition on every step gives another one, where steps that meet it preserve what the other
one needs. -/
theorem EveryStep.imp (inv : State → Prop) {meets meets' : State → Event → Prop}
    (kept : ∀ state event next, inv state → meets state event →
      step state event = some next → inv next)
    (gives : ∀ state event, inv state → meets state event → meets' state event)
    {events : List Event} {start : State} (initial : inv start)
    (every : EveryStep step meets events start) : EveryStep step meets' events start := by
  -- Induction on the events, where the invariant is kept by steps that meet the condition.
  induction events generalizing start with
  | nil => trivial
  | cons event rest ih =>
    refine ⟨gives start event initial every.1, fun next taken => ?_⟩
    exact ih (kept start event next initial every.1 taken) (every.2 next taken)

/-- Where every step meets a condition under which an invariant is kept, what the invariant gives
holds of every state. -/
theorem everyState_of_everyStep (inv : State → Prop) {holds : State → Prop}
    {meets : State → Event → Prop}
    (kept : ∀ state event next, inv state → meets state event →
      step state event = some next → inv next)
    (gives : ∀ state, inv state → holds state) {events : List Event} {start : State}
    (initial : inv start) (every : EveryStep step meets events start) :
    EveryState step holds events start := by
  -- Induction on the events, each of which keeps the invariant for the next state.
  induction events generalizing start with
  | nil => exact gives start initial
  | cons event rest ih =>
    refine ⟨gives start initial, fun next taken => ?_⟩
    exact ih (kept start event next initial every.1 taken) (every.2 next taken)

/-- Two statements about steps that are the same wherever an invariant holds are the same of every
run that starts with it. -/
theorem everyStep_congr (inv : State → Prop) {left right : State → Event → Prop}
    (kept : ∀ state event next, inv state → step state event = some next → inv next)
    (same : ∀ state event, inv state → (left state event ↔ right state event))
    {events : List Event} {start : State} (initial : inv start) :
    EveryStep step left events start ↔ EveryStep step right events start := by
  constructor
  · exact EveryStep.imp inv (fun state event next holds _ => kept state event next holds)
      (fun state event holds => (same state event holds).mp) initial
  · exact EveryStep.imp inv (fun state event next holds _ => kept state event next holds)
      (fun state event holds => (same state event holds).mpr) initial

/-- Where each step keeps a statement exactly when it meets a condition, the statement holds of
every state of a run exactly when each step of it meets the condition. -/
theorem everyState_iff_everyStep (inv : State → Prop) {holds : State → Prop}
    {meets : State → Event → Prop}
    (kept : ∀ state event next, inv state → step state event = some next → inv next)
    (decided : ∀ state event next, inv state → holds state → step state event = some next →
      (holds next ↔ meets state event))
    {events : List Event} {start final : State} (initial : inv start) (first : holds start)
    (run : after step events start = some final) :
    EveryState step holds events start ↔ EveryStep step meets events start := by
  -- Induction on the events, with the statement at the first state as a hypothesis.
  induction events generalizing start with
  | nil => exact ⟨fun _ => trivial, fun _ => first⟩
  | cons event rest ih =>
    obtain ⟨next, taken, others⟩ := Option.bind_eq_some_iff.mp run
    have only : ∀ other, step start event = some other → other = next := by
      intro other same
      exact Option.some.inj (same.symm.trans taken)
    have keptNext := kept start event next initial taken
    have decision := decided start event next initial first taken
    constructor
    · -- The next state is one of the run, so the first step has kept the statement.
      intro every
      have tail := every.2 next taken
      have holdsNext : holds next := by
        cases rest with
        | nil => exact tail
        | cons _ _ => exact tail.1
      refine ⟨decision.mp holdsNext, fun other same => ?_⟩
      rw [only other same]
      exact (ih keptNext holdsNext others).mp tail
    · -- The first step meets the condition, so the rest starts where the statement holds.
      intro every
      have holdsNext := decision.mpr every.1
      refine ⟨first, fun other same => ?_⟩
      rw [only other same]
      exact (ih keptNext holdsNext others).mpr (every.2 next taken)

end Run

/-- A state, the events that have led to it, and what they have put out. -/
structure Recorded (State Event Output : Type*) where
  state : State
  past : List Event
  outputs : List Output

namespace Recorded

variable {State Event Output : Type*}

/-- A state that nothing has happened to yet. -/
def start (state : State) : Recorded State Event Output := ⟨state, [], []⟩

variable (step : State → Event → Option (State × List Output))

/-- A step that is recorded with its event and its outputs. -/
def next (recorded : Recorded State Event Output) (event : Event) :
    Option (Recorded State Event Output) :=
  (step recorded.state event).map fun result =>
    ⟨result.1, recorded.past ++ [event], recorded.outputs ++ result.2⟩

variable {step}

/-- A recorded step is a step of the state, and nothing is taken off the record. -/
theorem next_cases {recorded after : Recorded State Event Output} {event : Event}
    (taken : next step recorded event = some after) :
    ∃ outputs, step recorded.state event = some (after.state, outputs) ∧
      after.past = recorded.past ++ [event] ∧ after.outputs = recorded.outputs ++ outputs := by
  obtain ⟨⟨state, outputs⟩, stepped, same⟩ := Option.map_eq_some_iff.mp taken
  rw [← same]
  exact ⟨outputs, stepped, rfl, rfl⟩

/-- A run records its events in order. -/
theorem past_after {events : List Event} {recorded final : Recorded State Event Output}
    (run : Run.after (next step) events recorded = some final) :
    final.past = recorded.past ++ events := by
  -- Every step adds its event behind the earlier ones.
  induction events generalizing recorded with
  | nil =>
    cases run
    exact (List.append_nil _).symm
  | cons event rest ih =>
    obtain ⟨after, taken, others⟩ := Option.bind_eq_some_iff.mp run
    obtain ⟨outputs, -, past, -⟩ := next_cases taken
    rw [ih others, past, List.append_assoc, List.singleton_append]

end Recorded

namespace History

variable {Entry : Type*}

/-- Each entry of a history stands in a relation to the entries before it. -/
def EachTime (holds : List Entry → Entry → Prop) (history : List Entry) : Prop :=
  ∀ before entry later, history = before ++ entry :: later → holds before entry

variable {holds : List Entry → Entry → Prop}

theorem eachTime_nil : EachTime holds [] := by
  intro before entry later split
  cases before <;> cases split

/-- The last entry of a history is related to all the others. -/
theorem eachTime_concat {history : List Entry} {last : Entry} :
    EachTime holds (history ++ [last]) ↔ EachTime holds history ∧ holds history last := by
  constructor
  · intro each
    refine ⟨fun before entry later split => ?_, each history last [] rfl⟩
    refine each before entry (later ++ [last]) ?_
    rw [split, List.append_assoc, List.cons_append]
  · intro each before entry later split
    -- The entry is the last one, or it stands in the shorter history.
    rcases List.eq_nil_or_concat later with empty | ⟨rest, other, tail⟩
    · subst empty
      obtain ⟨same, entries⟩ := List.append_inj' split rfl
      cases entries
      exact same ▸ each.2
    · subst tail
      have shorter : history = before ++ entry :: rest := by
        rw [List.concat_eq_append, ← List.cons_append, ← List.append_assoc] at split
        exact (List.append_inj' split rfl).1
      exact each.1 before entry rest shorter

/-- Further entries that are related whatever stands before them keep the statement. -/
theorem EachTime.append {history further : List Entry} (each : EachTime holds history)
    (free : ∀ entry ∈ further, ∀ before, holds before entry) :
    EachTime holds (history ++ further) := by
  -- Induction on the further entries, each of which stands behind all before it.
  induction further generalizing history with
  | nil => simpa using each
  | cons entry rest ih =>
    have one := eachTime_concat.mpr ⟨each, free entry List.mem_cons_self history⟩
    have all := ih one fun other member => free other (List.mem_cons_of_mem _ member)
    rwa [List.append_assoc] at all

end History
