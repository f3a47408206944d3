import AirQuality.Foundation.Transition

/-!
# Procedures

A procedure is a list of things to do in order, and may be left early. `At s now done` says that the state `s` is one
in which `done` has been done, with `now` what the next thing to do depends on.
-/

namespace AirQuality.Foundation

variable {S A E : Type*} {At : S → A → List E → Prop}

/-- Some of `script` has been done after `done`; if `complete` all of it, and the state is now at `next`. -/
def Follows (At : S → A → List E → Prop) (s : S) (next : A) (done script : List E) (complete : Prop) : Prop :=
  ∃ more now, more <+: script ∧ At s now (done ++ more) ∧ (complete → more = script ∧ now = next)

section Follows
variable {s t : S} {now next : A} {done script : List E} {complete : Prop}

theorem follows_none (here : At s now done) (incomplete : ¬ complete) (next : A) (script : List E) :
    Follows At s next done script complete := by
  refine ⟨[], now, List.nil_prefix, ?_, fun holds => absurd holds incomplete⟩
  rw [List.append_nil]
  exact here

theorem follows_all (here : At s next (done ++ script)) (complete : Prop) : Follows At s next done script complete :=
  ⟨script, next, List.prefix_refl _, here, fun _ => ⟨rfl, rfl⟩⟩

theorem Follows.mono {weaker : Prop} (follows : Follows At s next done script complete)
    (weakens : weaker → complete) : Follows At s next done script weaker := by
  obtain ⟨more, now, part, here, all⟩ := follows
  exact ⟨more, now, part, here, fun holds => all (weakens holds)⟩

/-- Left early, a procedure is part of a longer one. -/
theorem Follows.left (follows : Follows At s next done script complete) {finished : Prop} (unfinished : ¬ finished)
    (final : A) (longer : List E) : Follows At s final done (script ++ longer) finished := by
  obtain ⟨more, now, part, here, _⟩ := follows
  exact ⟨more, now, part.trans (List.prefix_append _ _), here, fun holds => absurd holds unfinished⟩

theorem Follows.trans (follows : Follows At s next done script complete) (all : complete) {final : A}
    {more : List E} {finished : Prop}
    (later : At s next (done ++ script) → Follows At t final (done ++ script) more finished) :
    Follows At t final done (script ++ more) finished := by
  obtain ⟨first, now, _, here, whole⟩ := follows
  obtain ⟨rfl, rfl⟩ := whole all
  obtain ⟨second, after, part, there, whole'⟩ := later here
  rw [List.append_assoc] at there
  refine ⟨first ++ second, after, (List.prefix_append_right_inj _).mpr part, there, fun holds => ?_⟩
  obtain ⟨rfl, rfl⟩ := whole' holds
  exact ⟨rfl, rfl⟩

end Follows

section Run
variable {I : Type*} (script : A → I → List E) (next : A → I → A)

/-- What a run does whose steps do `script` and leave `next`. -/
def runScript : A → List I → List E
  | _, [] => []
  | now, input :: rest => script now input ++ runScript (next now input) rest

theorem runScript_same {thing : E} {now : A} (same : ∀ input, script now input = [thing]) (inputs : List I) :
    runScript script (fun now _ => now) now inputs = List.replicate inputs.length thing := by
  induction inputs with
  | nil => rfl
  | cons input rest ih =>
    rw [runScript, same, ih]
    rfl

variable {step : S → I → S} {Stuck : S → Prop} (At)

/-- A run does the scripts of its steps in order until it is stuck. -/
theorem run_follows (stays : ∀ {s}, Stuck s → ∀ inputs, run step s inputs = s)
    (each : ∀ s now done, ¬ Stuck s → At s now done → ∀ input,
      At (step s input) (next now input) (done ++ script now input))
    {s : S} {now : A} {done : List E} (here : At s now done) (inputs : List I) :
    Follows At (run step s inputs) (inputs.foldl next now) done (runScript script next now inputs)
      (¬ Stuck (run step s inputs)) := by
  induction inputs generalizing s now done with
  | nil =>
    apply follows_all
    rw [runScript, List.append_nil]
    exact here
  | cons input rest ih =>
    by_cases stuck : Stuck s
    · rw [stays stuck]
      exact follows_none here (not_not.mpr stuck) _ _
    · exact (follows_all (each s now done stuck here input) True).trans trivial fun there => ih there

end Run

end AirQuality.Foundation
