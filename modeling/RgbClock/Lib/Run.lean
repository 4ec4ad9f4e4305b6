import Mathlib.Data.List.Induction
import Mathlib.Logic.Function.Iterate

/-! Finite runs of a deterministic step function over a list of events.
What one step keeps, every run keeps; a rule may also ask each step to meet a
condition in the state it is taken from. -/

namespace Runs

universe u v w x

variable {State : Type u} {Event : Type v}

def run (step : State → Event → State) (state : State) (events : List Event) : State :=
  events.foldl step state

@[simp] theorem run_nil (step : State → Event → State) (state : State) :
    run step state [] = state := rfl

@[simp] theorem run_cons (step : State → Event → State) (state : State) (event : Event) (rest : List Event) :
    run step state (event :: rest) = run step (step state event) rest := rfl

theorem run_append (step : State → Event → State) (state : State) (first second : List Event) :
    run step state (first ++ second) = run step (run step state first) second :=
  List.foldl_append

theorem run_concat (step : State → Event → State) (state : State) (events : List Event) (last : Event) :
    run step state (events ++ [last]) = step (run step state events) last := by
  rw [run_append, run_cons, run_nil]

def stateAt (step : State → Event → State) (state : State) (events : List Event) (n : Nat) : State :=
  run step state (events.take n)

theorem stateAt_succ {step : State → Event → State} {state : State} {events : List Event} {n : Nat} {event : Event}
    (found : events[n]? = some event) :
    stateAt step state events (n + 1) = step (stateAt step state events n) event := by
  unfold stateAt
  rw [List.take_add_one, found, Option.toList_some, run_concat]

theorem stateAt_end {step : State → Event → State} {state : State} {events : List Event} {n : Nat}
    (outside : events[n]? = none) : stateAt step state events (n + 1) = stateAt step state events n := by
  unfold stateAt
  rw [List.take_add_one, outside, Option.toList_none, List.append_nil]

/-- Every step of the run meets `ok` in the state it is taken from. -/
def Meets (step : State → Event → State) (ok : State → Event → Prop) : State → List Event → Prop
  | _, [] => True
  | state, event :: rest => ok state event ∧ Meets step ok (step state event) rest

instance instDecidableMeets (step : State → Event → State) (ok : State → Event → Prop)
    [∀ state event, Decidable (ok state event)] (state : State) (events : List Event) :
    Decidable (Meets step ok state events) :=
  match events with
  | [] => isTrue trivial
  | event :: rest =>
    have := instDecidableMeets step ok (step state event) rest
    inferInstanceAs (Decidable (ok state event ∧ Meets step ok (step state event) rest))

variable {step : State → Event → State} {ok : State → Event → Prop} {Inv : State → Prop}

theorem meets_append {state : State} {first second : List Event} :
    Meets step ok state (first ++ second) ↔
      Meets step ok state first ∧ Meets step ok (run step state first) second := by
  induction first generalizing state with
  | nil => simp [Meets]
  | cons event rest ih => simp only [List.cons_append, Meets, run_cons, ih, and_assoc]

theorem meets_concat {state : State} {events : List Event} {last : Event} :
    Meets step ok state (events ++ [last]) ↔
      Meets step ok state events ∧ ok (run step state events) last := by
  simp [meets_append, Meets]

theorem Meets.take {state : State} {events : List Event} (meets : Meets step ok state events) (n : Nat) :
    Meets step ok state (events.take n) := by
  rw [← List.take_append_drop n events] at meets
  exact (meets_append.mp meets).1

theorem Meets.at {state : State} {events : List Event} (meets : Meets step ok state events) {n : Nat} {event : Event}
    (found : events[n]? = some event) : ok (stateAt step state events n) event := by
  rw [← List.take_append_drop n events] at meets
  have later := (meets_append.mp meets).2
  obtain ⟨inside, rfl⟩ := List.getElem?_eq_some_iff.mp found
  rw [List.drop_eq_getElem_cons inside] at later
  exact later.1

/-- An invariant of every step that meets `ok` holds after every run whose steps all meet `ok`. -/
theorem run_keeps (keep : ∀ state event, Inv state → ok state event → Inv (step state event))
    {state : State} {events : List Event} (start : Inv state) (meets : Meets step ok state events) :
    Inv (run step state events) := by
  induction events generalizing state with
  | nil => exact start
  | cons event rest ih => exact ih (keep state event start meets.1) meets.2

theorem run_invariant (keep : ∀ state event, Inv state → Inv (step state event))
    {state : State} {events : List Event} (start : Inv state) : Inv (run step state events) := by
  induction events generalizing state with
  | nil => exact start
  | cons event rest ih => exact ih (keep state event start)

/-- Two machines that take the same events: a relation that every pair of steps keeps, every pair of runs keeps. -/
theorem run_simulates {Other : Type w} {other : Other → Event → Other} {Related : State → Other → Prop}
    (keep : ∀ state twin event, Related state twin → Related (step state event) (other twin event))
    {state : State} {twin : Other} (start : Related state twin) (events : List Event) :
    Related (run step state events) (run other twin events) := by
  induction events generalizing state twin with
  | nil => exact start
  | cons event rest ih => exact ih (keep state twin event start)

theorem stateAt_cons (step : State → Event → State) (state : State) (event : Event) (rest : List Event) (n : Nat) :
    stateAt step state (event :: rest) (n + 1) = stateAt step (step state event) rest n := rfl

theorem meets_iff_at {state : State} {events : List Event} :
    Meets step ok state events ↔ ∀ n event, events[n]? = some event → ok (stateAt step state events n) event := by
  constructor
  · exact fun meets n event found => meets.at found
  · intro always
    induction events generalizing state with
    | nil => trivial
    | cons event rest ih =>
      refine ⟨always 0 event rfl, ih fun n later found => ?_⟩
      have here := always (n + 1) later found
      rwa [stateAt_cons] at here

/-- Where a step keeps the invariant if it meets `ok` and else leaves `P`, the steps that meet `ok` are
those of the runs that stay within `P`. -/
theorem meets_iff_always {P : State → Prop} (within : ∀ state, Inv state → P state)
    (keep : ∀ state event, Inv state → ok state event → Inv (step state event))
    (breaks : ∀ state event, Inv state → ¬ ok state event → ¬ P (step state event))
    {state : State} {events : List Event} (start : Inv state) :
    Meets step ok state events ↔ ∀ n, P (stateAt step state events n) := by
  induction events generalizing state with
  | nil =>
    refine ⟨fun _ n => ?_, fun _ => trivial⟩
    rw [stateAt, List.take_nil]
    exact within state start
  | cons event rest ih =>
    constructor
    · rintro ⟨met, meets⟩ n
      cases n with
      | zero => exact within state start
      | succ n =>
        rw [stateAt_cons]
        exact (ih (keep state event start met)).mp meets n
    · intro always
      have met : ok state event := by
        by_contra missed
        exact breaks state event start missed (always 1)
      refine ⟨met, (ih (keep state event start met)).mpr fun n => ?_⟩
      rw [← stateAt_cons]
      exact always (n + 1)

/-- Two conditions that agree within an invariant that they keep are met by the same runs. -/
theorem meets_congr {other : State → Event → Prop}
    (agree : ∀ state event, Inv state → (ok state event ↔ other state event))
    (keep : ∀ state event, Inv state → ok state event → Inv (step state event))
    {state : State} {events : List Event} (start : Inv state) :
    Meets step ok state events ↔ Meets step other state events := by
  induction events generalizing state with
  | nil => exact Iff.rfl
  | cons event rest ih =>
    constructor
    · intro given
      obtain ⟨met, meets⟩ := given
      exact ⟨(agree state event start).mp met, (ih (keep state event start met)).mp meets⟩
    · intro given
      obtain ⟨met, meets⟩ := given
      have here := (agree state event start).mpr met
      exact ⟨here, (ih (keep state event start here)).mpr meets⟩

/-- A loop over positions: what holds before a position holds after it for the next one. -/
theorem run_counted {Before : Nat → State → Prop} {state : State} {events : List Event}
    (advance : ∀ n state event, events[n]? = some event → Before n state → Before (n + 1) (step state event))
    (start : Before 0 state) : Before events.length (run step state events) := by
  have upTo : ∀ n, n ≤ events.length → Before n (stateAt step state events n) := by
    intro n
    induction n with
    | zero => exact fun _ => start
    | succ n ih =>
      intro within
      have found : events[n]? = some events[n] := List.getElem?_eq_getElem within
      rw [stateAt_succ found]
      exact advance n _ _ found (ih (Nat.le_of_succ_le within))
  have whole := upTo events.length (Nat.le_refl _)
  rwa [stateAt, List.take_length] at whole

/-- Steps that may fail: where none fails within an invariant that they keep, no run fails. -/
theorem foldlM_keeps {attempt : State → Event → Option State} {state : State} {events : List Event}
    (keep : ∀ state, ∀ event ∈ events, Inv state → ∃ next, attempt state event = some next ∧ Inv next)
    (start : Inv state) : ∃ last, events.foldlM attempt state = some last ∧ Inv last := by
  induction events generalizing state with
  | nil => exact ⟨state, rfl, start⟩
  | cons event rest ih =>
    obtain ⟨next, taken, kept⟩ := keep state event List.mem_cons_self start
    obtain ⟨last, run, holds⟩ := ih (fun state event later => keep state event (List.mem_cons_of_mem _ later)) kept
    refine ⟨last, ?_, holds⟩
    rw [List.foldlM_cons, taken]
    exact run

/-! ### One step again and again -/

theorem iterate_keeps {next : State → State} (keep : ∀ state, Inv state → Inv (next state)) {state : State}
    (start : Inv state) (n : Nat) : Inv (next^[n] state) := by
  induction n generalizing state with
  | zero => exact start
  | succ n ih =>
    rw [Function.iterate_succ_apply]
    exact ih (keep state start)

/-- Where every step is the last or makes a measure smaller, the last one comes. -/
theorem iterate_reaches {next : State → State} {Done : State → Prop} (measure : State → Nat)
    (advance : ∀ state, Inv state → Done state ∨ Inv (next state) ∧ measure (next state) < measure state) {state : State}
    (start : Inv state) : ∃ n, Done (next^[n] state) := by
  induction size : measure state using Nat.strongRecOn generalizing state with
  | ind left ih =>
    obtain done | ⟨kept, less⟩ := advance state start
    · exact ⟨0, done⟩
    · obtain ⟨n, done⟩ := ih (measure (next state)) (size ▸ less) kept rfl
      exact ⟨n + 1, done⟩

end Runs
