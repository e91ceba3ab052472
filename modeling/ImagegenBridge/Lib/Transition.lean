/-!
# Runs of a labelled transition system

A condition restricts the events of a run. What every allowed event preserves is
proved for one step and holds along the whole run.
-/

namespace Transition

variable {σ ε : Type}

/-- The states reached from an origin by events that all meet a condition. -/
inductive Run (step : σ → ε → σ → Prop) (condition : σ → ε → Prop) (origin : σ) : σ → Prop
  | start : Run step condition origin origin
  | next {s t : σ} {event : ε} : Run step condition origin s → step s event t →
      condition s event → Run step condition origin t

/-- The condition every event meets. -/
def Unrestricted (_ : σ) (_ : ε) : Prop := True

variable {step : σ → ε → σ → Prop} {condition condition' : σ → ε → Prop} {origin s t : σ}

/-- The rule of invariants. A step may use that its source is reached. -/
theorem Run.invariant {Inv : σ → Prop} (run : Run step condition origin s) (start : Inv origin)
    (preserved : ∀ s event t, Run step condition origin s → Inv s → step s event t →
      condition s event → Inv t) : Inv s := by
  induction run with
  | start => exact start
  | next run taken met ih => exact preserved _ _ _ run ih taken met

theorem Run.weaken (run : Run step condition origin s)
    (weaker : ∀ s event, condition s event → condition' s event) :
    Run step condition' origin s := by
  induction run with
  | start => exact .start
  | next _ taken met ih => exact .next ih taken (weaker _ _ met)

theorem Run.unrestricted (run : Run step condition origin s) : Run step Unrestricted origin s :=
  run.weaken fun _ _ _ => trivial

theorem Run.trans (first : Run step condition origin s) (second : Run step condition s t) :
    Run step condition origin t := by
  induction second with
  | start => exact first
  | next _ taken met ih => exact .next ih taken met

/-- One step of an unrestricted run. -/
theorem Run.then {event : ε} (run : Run step Unrestricted origin s) (taken : step s event t) :
    Run step Unrestricted origin t := .next run taken trivial

end Transition
