import Mathlib.Data.List.Basic

/-!
# Runs of a step function

A system is a step function; a run feeds it a list of inputs. `Along` holds a property at
every step of a run, judged on the state before the step and on its input. The rules at the
end turn what one step keeps or adds into what a whole run keeps or adds.
-/

namespace AirQuality.Foundation

variable {S I : Type*} {step : S → I → S}

def run (step : S → I → S) : S → List I → S
  | s, [] => s
  | s, input :: rest => run step (step s input) rest

def Along (step : S → I → S) (P : S → I → Prop) : S → List I → Prop
  | _, [] => True
  | s, input :: rest => P s input ∧ Along step P (step s input) rest

@[simp] theorem run_nil (s : S) : run step s [] = s := rfl

@[simp] theorem run_cons (s : S) (input : I) (rest : List I) :
    run step s (input :: rest) = run step (step s input) rest := rfl

theorem run_append (s : S) (before after : List I) :
    run step s (before ++ after) = run step (run step s before) after := by
  induction before generalizing s with
  | nil => rfl
  | cons input rest ih => exact ih _

theorem along_append {P : S → I → Prop} (s : S) (before after : List I) :
    Along step P s (before ++ after) ↔
      Along step P s before ∧ Along step P (run step s before) after := by
  induction before generalizing s with
  | nil => simp [Along]
  | cons input rest ih => simp [Along, ih, and_assoc]

/-- `Along` speaks about every way to cut the run at one of its steps. -/
theorem along_iff_split {P : S → I → Prop} (s : S) (inputs : List I) :
    Along step P s inputs ↔
      ∀ before input after, inputs = before ++ input :: after → P (run step s before) input := by
  constructor
  · rintro along before input after rfl
    exact ((along_append s before (input :: after)).mp along).2.1
  · intro split
    induction inputs generalizing s with
    | nil => trivial
    | cons input rest ih =>
      refine ⟨split [] input rest rfl, ih _ ?_⟩
      rintro before next after rfl
      exact split (input :: before) next after rfl

theorem run_invariant {Inv : S → Prop} (keep : ∀ s input, Inv s → Inv (step s input)) {s : S}
    (start : Inv s) (inputs : List I) : Inv (run step s inputs) := by
  induction inputs generalizing s with
  | nil => exact start
  | cons input rest ih => exact ih (keep s input start)

/-- When, from states with the invariant, a step meets `P` exactly if its input meets `Q` and then
keeps the invariant, a run meets `P` at every step exactly if all its inputs meet `Q`. -/
theorem along_iff_forall {Inv : S → Prop} {P : S → I → Prop} {Q : I → Prop}
    (each : ∀ s input, Inv s → (P s input ↔ Q input))
    (keep : ∀ s input, Inv s → P s input → Inv (step s input)) {s : S} (start : Inv s)
    (inputs : List I) : Along step P s inputs ↔ ∀ input ∈ inputs, Q input := by
  induction inputs generalizing s with
  | nil => simp [Along]
  | cons input rest ih =>
    rw [Along, List.forall_mem_cons, ← each s input start]
    exact and_congr_right fun met => ih (keep s input start met)

/-- When a step keeps `Good` exactly if it meets `P`, a run keeps `Good` exactly if each of its
steps meets `P`. -/
theorem run_iff_along {Inv Good : S → Prop} {P : S → I → Prop}
    (keep : ∀ s input, Inv s → Inv (step s input))
    (once : ∀ s input, Inv s → (Good (step s input) ↔ Good s ∧ P s input)) {s : S} (start : Inv s)
    (inputs : List I) : Good (run step s inputs) ↔ Good s ∧ Along step P s inputs := by
  induction inputs generalizing s with
  | nil => simp [Along]
  | cons input rest ih =>
    rw [run_cons, ih (keep s input start), once s input start, Along, and_assoc]

end AirQuality.Foundation
