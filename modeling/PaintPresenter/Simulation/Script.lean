/-!
# Scripts of failures

A simulation follows a script: rules that name a call and say after how many more successes it
fails, and how. The first rule for a call decides; one that has fired is gone.
-/

namespace PaintPresenter.Simulation

/-- Lets `skip` calls of a name pass and makes the next one fail. -/
structure Rule (ε : Type) where
  name : String
  skip : Nat
  failure : ε
  deriving Repr

/-- Rules in the order in which they were given. -/
abbrev Script (ε : Type) := List (Rule ε)

namespace Script

variable {ε : Type}

/-- Whether a call of this name fails now, and the script afterwards. -/
def next (name : String) : Script ε → Option ε × Script ε
  | [] => (none, [])
  | rule :: later =>
    if rule.name = name then
      if rule.skip = 0 then (some rule.failure, later)
      else (none, { rule with skip := rule.skip - 1 } :: later)
    else
      let (failure, later) := next name later
      (failure, rule :: later)

/-- Counts of skipped calls, as a queue: the first entry decides, and is gone when it has fired. -/
def nextCount : List Nat → Bool × List Nat
  | [] => (false, [])
  | 0 :: later => (true, later)
  | (n + 1) :: later => (false, n :: later)

end Script

end PaintPresenter.Simulation
