import AirQuality.Foundation.Transition

/-!
# Resources taken and given back

A holder with room for one resource: it takes one only with empty hands, and gives back what it holds. Over a
run it then gives back what it has taken, in the same order, but for what it still holds.
-/

namespace AirQuality.Foundation

variable {R : Type*}

inductive Use (R : Type*) where
  | take (resource : R)
  | give (resource : R)
  deriving DecidableEq

namespace Use

def after (_held : Option R) : Use R → Option R
  | .take resource => some resource
  | .give _ => none

def Proper (held : Option R) : Use R → Prop
  | .take _ => held = none
  | .give resource => held = some resource

def taken : Use R → Option R
  | .take resource => some resource
  | .give _ => none

def given : Use R → Option R
  | .take _ => none
  | .give resource => some resource

theorem balanced {held : Option R} {uses : List (Use R)} (proper : Along after Proper held uses) :
    held.toList ++ uses.filterMap taken = uses.filterMap given ++ (run after held uses).toList := by
  induction uses generalizing held with
  | nil => simp
  | cons use rest ih =>
    obtain ⟨now, later⟩ := proper
    have tail := ih later
    cases use with
    | take resource =>
      obtain rfl : held = none := now
      simpa [after, List.filterMap_cons, taken, given] using tail
    | give resource =>
      obtain rfl : held = some resource := now
      simpa [after, List.filterMap_cons, taken, given] using tail

end Use

end AirQuality.Foundation
