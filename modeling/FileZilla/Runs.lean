import FileZilla.Guards
import Mathlib.Data.List.Forall2

namespace FileZilla

open List

universe u v

variable {State : Type u} {Event : Type v}

/-! Runs of a machine given by a partial step function. The trace keeps every
event together with the state it was taken in. -/

inductive Run (step : State → Event → Option State) (start : State) :
    List (State × Event) → State → Prop
  | refl : Run step start [] start
  | step {trace : List (State × Event)} {state next : State} {event : Event}
      (run : Run step start trace state) (taken : step state event = some next) :
      Run step start (trace ++ [(state, event)]) next

namespace Run

variable {step : State → Event → Option State} {start state : State}
  {trace : List (State × Event)}

theorem invariant {Invariant : State → Prop} (initial : Invariant start)
    (preserved : ∀ state event next, Invariant state →
      step state event = some next → Invariant next)
    (run : Run step start trace state) : Invariant state := by
  induction run with
  | refl => exact initial
  | step _ taken ih => exact preserved _ _ _ ih taken

theorem invariant_of_forall {Invariant : State → Prop} {Allowed : State → Event → Prop}
    (initial : Invariant start)
    (preserved : ∀ state event next, Invariant state → Allowed state event →
      step state event = some next → Invariant next)
    (run : Run step start trace state)
    (allowed : ∀ taken ∈ trace, Allowed taken.1 taken.2) :
    Invariant state := by
  induction run with
  | refl => exact initial
  | @step trace state next event run taken ih =>
    have earlier : Invariant state :=
      ih fun pair member => allowed pair (mem_append_left _ member)
    exact preserved _ _ _ earlier (allowed (state, event) (by simp)) taken

theorem trace_invariant_of_forall {Invariant : List (State × Event) → State → Prop}
    {Allowed : State → Event → Prop} (initial : Invariant [] start)
    (preserved : ∀ trace state event next, Invariant trace state →
      Allowed state event → step state event = some next →
      Invariant (trace ++ [(state, event)]) next)
    (run : Run step start trace state)
    (allowed : ∀ taken ∈ trace, Allowed taken.1 taken.2) :
    Invariant trace state := by
  induction run with
  | refl => exact initial
  | @step trace state next event run taken ih =>
    have earlier : Invariant trace state :=
      ih fun pair member => allowed pair (mem_append_left _ member)
    exact preserved _ _ _ _ earlier (allowed (state, event) (by simp)) taken

theorem before {earlier later : List (State × Event)} {taken : State × Event}
    (run : Run step start (earlier ++ taken :: later) state) :
    Run step start earlier taken.1 := by
  generalize whole : earlier ++ taken :: later = trace at run
  induction run generalizing later with
  | refl => simp at whole
  | @step trace state next event run _ ih =>
    rcases eq_nil_or_concat later with rfl | ⟨rest, last, rfl⟩
    · obtain ⟨rfl, same⟩ := append_inj' whole rfl
      cases same
      exact run
    · rw [concat_eq_append, ← cons_append, ← append_assoc] at whole
      exact ih (append_inj' whole rfl).1

theorem related {Other : Type u} {otherStep : Other → Event → Option Other} {otherStart : Other}
    {Related : State → Other → Prop}
    (matched : ∀ state other event next, Related state other → step state event = some next →
      ∃ otherNext, otherStep other event = some otherNext ∧ Related next otherNext)
    (initial : Related start otherStart) (run : Run step start trace state) :
    ∃ otherTrace other, Run otherStep otherStart otherTrace other ∧ Related state other ∧
      List.Forall₂ (fun taken like => Related taken.1 like.1 ∧ taken.2 = like.2)
        trace otherTrace := by
  induction run with
  | refl => exact ⟨[], otherStart, .refl, initial, .nil⟩
  | @step trace state next event run taken ih =>
    obtain ⟨otherTrace, other, otherRun, related, alike⟩ := ih
    obtain ⟨otherNext, otherTaken, later⟩ := matched _ _ _ _ related taken
    refine ⟨otherTrace ++ [(other, event)], otherNext, .step otherRun otherTaken, later, ?_⟩
    exact rel_append alike (.cons ⟨related, rfl⟩ .nil)

end Run

def execute (step : State → Event → Option State) :
    State → List Event → Option (List (State × Event) × State)
  | state, [] => some ([], state)
  | state, event :: rest =>
    match step state event with
    | none => none
    | some next =>
      (execute step next rest).map fun result =>
        ((state, event) :: result.1, result.2)

variable {step : State → Event → Option State} {state : State}

theorem Run.cons {next final : State} {event : Event} {trace : List (State × Event)}
    (taken : step state event = some next) (run : Run step next trace final) :
    Run step state ((state, event) :: trace) final := by
  induction run with
  | refl => simpa using Run.step .refl taken
  | step _ later ih => exact Run.step ih later

theorem execute_run {final : State} {events : List Event} {trace : List (State × Event)}
    (executed : execute step state events = some (trace, final)) :
    Run step state trace final := by
  induction events generalizing state trace with
  | nil =>
    simp only [execute, Option.some.injEq, Prod.mk.injEq] at executed
    obtain ⟨rfl, rfl⟩ := executed
    exact .refl
  | cons event rest ih =>
    cases taken : step state event with
    | none => simp [execute, taken] at executed
    | some next =>
      simp only [execute, taken, Option.map_eq_some_iff, Prod.mk.injEq] at executed
      obtain ⟨⟨tail, last⟩, tailExecuted, rfl, rfl⟩ := executed
      exact Run.cons taken (ih tailExecuted)

theorem exists_run_of_execute {events : List Event} {check : List (State × Event) → State → Bool}
    (passed : (execute step state events).any (fun result => check result.1 result.2) = true) :
    ∃ trace final, Run step state trace final ∧ check trace final = true := by
  cases executed : execute step state events with
  | none => simp [executed] at passed
  | some result =>
    obtain ⟨trace, final⟩ := result
    exact ⟨trace, final, execute_run executed, by simpa [executed] using passed⟩

end FileZilla
