import MediaImport.Proofs.Script.Levels
import MediaImport.Script.Interpreter

/-!
# Ends of runs

A machine goes on until its behaviour has ended, with values or with an error, or has brought
everything to a stop.  At its end it stays.  So a run that is at an end within some limit comes to
the same end under every greater one, and a run halts in two ways only: the machine asks for it, or
it has come to no end at all.

A program may have no end.  That is no matter of the limit: a loop that does nothing is unfinished
under each.
-/

namespace MediaImport.Script

variable {σ : Type} {host : Host σ}

namespace Config

variable {config : Config σ} {ending : Ending}

/-- At its end, a machine stays as it is. -/
theorem step_of_ending (ended : config.ending? = some ending) : config.step host = config := by
  unfold ending? at ended
  split at ended
  · next how focus => simp only [step, focus]
  · next signal focus alone => simp only [step, focus, finish, alone]
  · next error focus alone => simp only [step, focus, abandon, alone]
  · cases ended

theorem after_of_ending (ended : config.ending? = some ending) (steps : Nat) :
    config.after host steps = config := by
  induction steps with
  | zero => rfl
  | succ steps ih =>
    rw [after, step_of_ending ended]
    exact ih

/-- A run takes all the steps that there may be. -/
theorem run_eq_after (limit : Nat) (config : Config σ) :
    config.run host limit = config.after host limit := by
  induction limit generalizing config with
  | zero => rfl
  | succ limit ih =>
    rw [run]
    cases ended : config.ending? with
    | some ending => exact (after_of_ending ended (limit + 1)).symm
    | none => exact ih (config.step host)

/-- Once there is an end, no greater limit leads anywhere else. -/
theorem run_of_le {few many : Nat} (more : few ≤ many)
    (ended : (config.run host few).ending? = some ending) :
    config.run host many = config.run host few := by
  rw [run_eq_after] at ended
  obtain ⟨rest, rfl⟩ := Nat.exists_eq_add_of_le more
  rw [run_eq_after, run_eq_after, after_add, after_of_ending ended]

theorem ending?_eq_halted_iff {how : Halt} :
    config.ending? = some (.halted how) ↔ config.focus = .halt how := by
  constructor
  · intro ended
    unfold ending? at ended
    split at ended <;> cases ended
    assumption
  · intro focus
    simp only [ending?, focus]

end Config

namespace Interpreter

/-- A run halts because its machine asks for that, or because the machine does not come to an
end. -/
theorem run_halts_iff (interpreter : Interpreter) (state : σ) (behaviour : Behaviour Signal)
    (how : Halt) :
    (interpreter.run host state behaviour).1 = .halted how ↔
      (∃ steps ≤ interpreter.limit,
        ((interpreter.start state behaviour).after host steps).focus = .halt how) ∨
      how = .unfinished ∧ ∀ steps ≤ interpreter.limit,
        ((interpreter.start state behaviour).after host steps).ending? = none := by
  have final : (interpreter.run host state behaviour).1 =
      ((interpreter.start state behaviour).after host interpreter.limit).ending?.getD
        (.halted .unfinished) := by
    rw [run, Config.run_eq_after]
  rw [final]
  generalize interpreter.start state behaviour = start
  -- What is at an end at some step is at the same end when the limit is reached.
  have kept {steps : Nat} (within : steps ≤ interpreter.limit) {ending : Ending}
      (ended : (start.after host steps).ending? = some ending) :
      (start.after host interpreter.limit).ending? = some ending := by
    obtain ⟨rest, same⟩ := Nat.exists_eq_add_of_le within
    rw [same, Config.after_add, Config.after_of_ending ended, ended]
  constructor
  · intro halts
    cases ended : (start.after host interpreter.limit).ending? with
    | some ending =>
      rw [ended] at halts
      obtain rfl : ending = .halted how := halts
      exact .inl ⟨interpreter.limit, Nat.le_refl _, Config.ending?_eq_halted_iff.mp ended⟩
    | none =>
      rw [ended] at halts
      obtain rfl : Halt.unfinished = how := Ending.halted.inj halts
      refine .inr ⟨rfl, fun steps within => ?_⟩
      by_contra early
      obtain ⟨ending, found⟩ := Option.ne_none_iff_exists'.mp early
      rw [kept within found] at ended
      cases ended
  · rintro (⟨steps, within, focus⟩ | ⟨rfl, endless⟩)
    · rw [kept within (Config.ending?_eq_halted_iff.mpr focus), Option.getD_some]
    · rw [endless interpreter.limit (Nat.le_refl _), Option.getD_none]

/-- To run through a loop that does nothing has no end, under any limit. -/
theorem endless_emptyLoop (interpreter : Interpreter) (state : σ) (scope : Scope) (limit : Nat) :
    ((interpreter.start state ((Code.whileLoop (.bool true) []).behaviour scope)).run host
      limit).ending? = none := by
  have again : (interpreter.start state ((Code.whileLoop (.bool true) []).behaviour scope)).step
      host = interpreter.start state ((Code.whileLoop (.bool true) []).behaviour scope) := rfl
  have stays : (interpreter.start state ((Code.whileLoop (.bool true) []).behaviour scope)).after
      host limit = interpreter.start state ((Code.whileLoop (.bool true) []).behaviour scope) := by
    induction limit with
    | zero => rfl
    | succ limit ih => rw [Config.after, again, ih]
  rw [Config.run_eq_after, stays]
  rfl

end Interpreter

end MediaImport.Script
