/-!
# Evaluated results

What a run on a fixed input answers is found by evaluation.  Answers are
compared as optional values, since failures need not be comparable.
-/

namespace SourceMark

variable {failure result answer : Type}

theorem eq_ok_of_toOption {run : Except failure result} {given : result}
    (evaluated : run.toOption = some given) : run = .ok given := by
  cases run with
  | error cause => simp [Except.toOption] at evaluated
  | ok found => simpa [Except.toOption] using evaluated

/-- A run that succeeds answers with the value it is evaluated to. -/
theorem eq_ok_getD {run : Except failure result} (default : result)
    (evaluated : run.toOption.isSome = true) :
    run = .ok (run.toOption.getD default) := by
  cases run with
  | error cause => simp [Except.toOption] at evaluated
  | ok found => rfl

/-- The failure of a run that fails. -/
def failure? : Except failure result → Option failure
  | .error cause => some cause
  | .ok _ => none

theorem eq_error_of_failure? {run : Except failure result} {cause : failure}
    (evaluated : failure? run = some cause) : run = .error cause := by
  cases run with
  | error found => simpa [failure?] using evaluated
  | ok found => simp [failure?] at evaluated

/-- What succeeds with a change has succeeded without it. -/
theorem exists_ok_of_map {run : Except failure result}
    {change : result → answer} {given : answer}
    (success : run.map change = .ok given) :
    ∃ found, run = .ok found ∧ given = change found := by
  cases run with
  | error cause => simp [Except.map] at success
  | ok found => exact ⟨found, rfl, by simpa [Except.map] using success.symm⟩

theorem exists_ok_of_toOption_map {run : Except failure result}
    {view : result → answer} {given : answer}
    (evaluated : (run.map view).toOption = some given) :
    ∃ found, run = .ok found ∧ view found = given := by
  cases run with
  | error cause => simp [Except.map, Except.toOption] at evaluated
  | ok found =>
      exact ⟨found, rfl, by simpa [Except.map, Except.toOption] using evaluated⟩

end SourceMark
