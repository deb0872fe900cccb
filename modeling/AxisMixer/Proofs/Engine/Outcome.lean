import AxisMixer.Engine.Basic

/-!
# Engine — what the steps of a running engine come to

`Step.outcome` is the result of a step together with the engine, the world and the log that it
leaves.  The lemmas give it for the steps the engine is built from, so that a composite step is
opened by rewriting: `outcome_bind` runs the first part and, unless that failed, the second part
from where the first one left off.
-/

namespace AxisMixer.Engine

variable {S K σ α β : Type}

namespace Step

@[simp] theorem mapError_ok {E F : Type} (f : E → F) (a : α) :
    (Except.ok a).mapError f = .ok a := rfl

@[simp] theorem mapError_error {E F : Type} (f : E → F) (e : E) :
    (Except.error e : Except E α).mapError f = .error (f e) := rfl

/-- What the step gives, and the running engine it leaves. -/
def outcome (step : Step S K σ α) (run : Run S K σ) : Except Failure α × Run S K σ :=
  step.run run

/-- The second half of a bind, from what the first half came to. -/
def andThen (f : α → Step S K σ β) : Except Failure α × Run S K σ → Except Failure β × Run S K σ
  | (.ok a, run) => (f a).outcome run
  | (.error e, run) => (.error e, run)

variable (run : Run S K σ)

@[simp] theorem andThen_ok (f : α → Step S K σ β) (a : α) :
    andThen f (.ok a, run) = (f a).outcome run := rfl

@[simp] theorem andThen_error (f : α → Step S K σ β) (e : Failure) :
    andThen f (.error e, run) = (.error e, run) := rfl

@[simp] theorem outcome_done (result : Except Failure α) :
    (Step.done result : Step S K σ α).outcome run = (result, run) := rfl

/-- The first move is made, and the rest goes on from there. -/
@[simp] theorem outcome_next (move : Run S K σ → β × Run S K σ) (rest : β → Step S K σ α) :
    (Step.next move rest).outcome run = (rest (move run).1).outcome (move run).2 := rfl

@[simp] theorem outcome_pure (a : α) : outcome (pure a : Step S K σ α) run = (.ok a, run) := rfl

@[simp] theorem outcome_throw (e : Failure) :
    outcome (throw e : Step S K σ α) run = (.error e, run) := rfl

@[simp] theorem outcome_bind (step : Step S K σ α) (f : α → Step S K σ β) :
    (step >>= f).outcome run = andThen f (step.outcome run) := by
  induction step generalizing run with
  | done result => cases result <;> rfl
  | next move rest ih => exact ih (move run).1 (move run).2

@[simp] theorem outcome_once (move : Run S K σ → Except Failure α × Run S K σ) :
    outcome (once move) run = move run := rfl

@[simp] theorem outcome_note (level : Level) (message : String) :
    outcome (note level message : Step S K σ Unit) run =
      (.ok (), { run with log := run.log.push ⟨level, .engine, message⟩ }) := rfl

@[simp] theorem outcome_count (f : Stats → Stats) :
    outcome (count f : Step S K σ Unit) run =
      (.ok (), { run with engine.stats := f run.engine.stats }) := rfl

@[simp] theorem outcome_act (f : σ → Except Failure α × σ) :
    outcome (act f) run = ((f run.world).1, { run with world := (f run.world).2 }) := rfl

theorem outcome_tryCatch (step : Step S K σ α) (handler : Failure → Step S K σ α) :
    outcome (tryCatch step handler) run =
      match step.outcome run with
      | (.ok a, after) => (.ok a, after)
      | (.error e, after) => (handler e).outcome after := by
  induction step generalizing run with
  | done result => cases result <;> rfl
  | next move rest ih => exact ih (move run).1 (move run).2

/-- A propagation error becomes a value; other failures stay failures. -/
theorem outcome_attempt (step : Step S K σ Unit) :
    (attempt step).outcome run =
      match step.outcome run with
      | (.ok (), after) => (.ok none, after)
      | (.error (.propagation e), after) => (.ok (some e), after)
      | (.error e, after) => (.error e, after) := by
  rw [attempt, outcome_tryCatch, outcome_bind]
  rcases step.outcome run with ⟨e | a, after⟩
  · cases e <;> rfl
  · rfl

end Step

/-! ### The engine's own steps -/

variable (run : Run S K σ)

/-- An update is handled with the engine as it is when the first move is made. -/
theorem outcome_handle (access : DeviceAccess S K σ) (update : Update) :
    (handle access update).outcome run = (handleWith access update run.engine).outcome run := rfl

end AxisMixer.Engine
