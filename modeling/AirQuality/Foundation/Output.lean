import AirQuality.Foundation.Transition

/-!
# Runs with output

A step may put something out. What a run puts out is the outputs of its steps in order; a log that each
step extends by its own output is, after a run, extended by the output of the run. A log itself is a run that keeps all its inputs.
-/

namespace AirQuality.Foundation

variable {S I O : Type*} {step : S → I → S}

def outputs (step : S → I → S) (out : S → I → List O) : S → List I → List O
  | _, [] => []
  | s, input :: rest => out s input ++ outputs step out (step s input) rest

variable {out : S → I → List O}

/-- Each step adds its output to the log. -/
theorem run_emits {Inv : S → Prop} (keep : ∀ s input, Inv s → Inv (step s input)) {log : S → List O}
    (each : ∀ s input, Inv s → log (step s input) = log s ++ out s input) {s : S} (start : Inv s) (inputs : List I) :
    log (run step s inputs) = log s ++ outputs step out s inputs := by
  induction inputs generalizing s with
  | nil => simp [outputs]
  | cons input rest ih => rw [run_cons, ih (keep s input start), each s input start, outputs, List.append_assoc]

/-- What is put out is, in order, part of what the inputs offer. -/
theorem outputs_sublist {offer : I → List O} (each : ∀ s input, (out s input).Sublist (offer input)) (s : S)
    (inputs : List I) : (outputs step out s inputs).Sublist (inputs.flatMap offer) := by
  induction inputs generalizing s with
  | nil => exact List.Sublist.refl _
  | cons input rest ih =>
    rw [List.flatMap_cons]
    exact (each s input).append (ih _)

def grow (before : List I) (input : I) : List I := before ++ [input]

theorem run_grow (before inputs : List I) : run grow before inputs = before ++ inputs := by
  induction inputs generalizing before with
  | nil => simp
  | cons input rest ih => rw [run_cons, ih, grow, List.append_assoc, List.singleton_append]

/-- Each entry of the log stands in a relation to those before it. -/
def Ordered (P : List I → I → Prop) (log : List I) : Prop :=
  ∀ before entry after, log = before ++ entry :: after → P before entry

theorem ordered_iff_along {P : List I → I → Prop} (log : List I) : Ordered P log ↔ Along grow P [] log := by
  rw [along_iff_split]
  simp only [run_grow, List.nil_append]
  rfl

theorem ordered_grow {P : List I → I → Prop} {log : List I} {entry : I} :
    Ordered P (log ++ [entry]) ↔ Ordered P log ∧ P log entry := by
  rw [ordered_iff_along, ordered_iff_along, along_append, run_grow]
  simp [Along]

end AirQuality.Foundation
