import MediaImport.Proofs.Script.Levels
import MediaImport.Script.Interpreter

/-!
# The state of the host

A machine has the state of its host in its hands, but only the answers of the host
change it.  The requests that a run makes, in their order, therefore say what comes of the
state.  And whatever holds of the state at the beginning, and is left true by every
answer, holds all the way of a run and after it.
-/

namespace MediaImport.Script

variable {σ : Type} {host : Host σ}

namespace Host

/-- The state that answers to requests leave, given one after the other. -/
def stateAfter (host : Host σ) (state : σ) (requests : List HostRequest) : σ :=
  requests.foldl (fun state request => (host.answer request state).2) state

theorem stateAfter_append (state : σ) (earlier later : List HostRequest) :
    host.stateAfter state (earlier ++ later) =
      host.stateAfter (host.stateAfter state earlier) later :=
  List.foldl_append

end Host

namespace Config

theorem state_beginWith (config : Config σ) (site : Option Site) (frame : Frame)
    (focus : Behaviour Signal) : (config.beginWith site frame focus).state = config.state := by
  unfold beginWith
  split
  · rfl
  · split <;> rfl

theorem state_finish (config : Config σ) (signal : Signal) :
    (config.finish signal).state = config.state := by
  unfold finish
  split
  · rfl
  · split <;> rfl

theorem state_abandon (config : Config σ) (error : Value) :
    (config.abandon error).state = config.state := by
  unfold abandon
  split
  · rfl
  · split <;> rfl

theorem state_resumeThread (config : Config σ) (thread : Nat) (arguments : List Value)
    (next : Except Value (List Value) → Behaviour Signal) :
    (config.resumeThread host thread arguments next).state = config.state := by
  unfold resumeThread
  split
  · rfl
  · dsimp only
    split <;> rfl

theorem state_yieldValues (config : Config σ) (values : List Value)
    (next : List Value → Behaviour Signal) :
    (config.yieldValues values next).state = config.state := by
  unfold yieldValues
  dsimp only
  split
  · split <;> rfl
  · rfl

theorem state_replaceBy (config : Config σ) (site : Site) (function : Value)
    (arguments : List Value) :
    (config.replaceBy host site function arguments).state = config.state := by
  cases function with
  | closure id => rfl
  | _ => exact state_beginWith _ _ _ _

/-- The request to the host that is answered next, if there is one. -/
def asked? (config : Config σ) : Option HostRequest :=
  match config.focus with
  | .host request _ => some request
  | _ => none

/-- A step leaves the state alone, unless the host is asked: then it is what the answer leaves. -/
theorem state_step_eq (config : Config σ) :
    (config.step host).state =
      config.asked?.elim config.state fun request => (host.answer request config.state).2 := by
  cases focus : config.focus with
  | host request next => simp only [step, asked?, focus, Option.elim_some]
  | done signal =>
    simp only [step, asked?, focus]
    exact state_finish _ _
  | raise error =>
    simp only [step, asked?, focus]
    exact state_abandon _ _
  | call site function arguments next =>
    simp only [step, asked?, focus]
    exact state_beginWith _ _ _ _
  | tailCall site function arguments =>
    simp only [step, asked?, focus]
    exact state_replaceBy _ _ _ _
  | attempt trial next =>
    simp only [step, asked?, focus]
    exact state_beginWith _ _ _ _
  | resume thread arguments next =>
    simp only [step, asked?, focus]
    exact state_resumeThread _ _ _ _
  | yield values next =>
    simp only [step, asked?, focus]
    exact state_yieldValues _ _ _
  | enter code scope next =>
    simp only [step, asked?, focus]
    rfl
  | spawn function next =>
    simp only [step, asked?, focus]
    rfl
  | close thread next =>
    simp only [step, asked?, focus]
    rfl
  | _ => simp only [step, asked?, focus, Option.elim_none]

/-- A step leaves the state alone or is an answer of the host. -/
theorem state_step (config : Config σ) :
    (config.step host).state = config.state ∨
      ∃ request, (config.step host).state = (host.answer request config.state).2 := by
  rw [state_step_eq]
  cases config.asked? with
  | none => exact .inl rfl
  | some request => exact .inr ⟨request, rfl⟩

/-! ## Requests -/

/-- The requests to the host that are answered in a run, first to last. -/
def requests (host : Host σ) : Nat → Config σ → List HostRequest
  | 0, _ => []
  | steps + 1, config =>
    match config.ending? with
    | some _ => []
    | none => config.asked?.toList ++ requests host steps (config.step host)

/-- The state after a run is what the answers to its requests leave, one after the other. -/
theorem state_run (steps : Nat) (config : Config σ) :
    (config.run host steps).state =
      host.stateAfter config.state (config.requests host steps) := by
  induction steps generalizing config with
  | zero => rfl
  | succ steps ih =>
    cases ended : config.ending? with
    | some ending =>
      simp only [run, requests, ended]
      rfl
    | none =>
      simp only [run, requests, ended]
      rw [ih, state_step_eq, Host.stateAfter_append]
      cases config.asked? <;> rfl

/-! ## What every answer leaves true -/

variable {Holds : σ → Prop}

theorem holds_step (kept : ∀ request state, Holds state → Holds (host.answer request state).2)
    {config : Config σ} (holds : Holds config.state) : Holds (config.step host).state := by
  rcases config.state_step with same | ⟨request, answered⟩
  · rw [same]
    exact holds
  · rw [answered]
    exact kept request config.state holds

theorem holds_after (kept : ∀ request state, Holds state → Holds (host.answer request state).2)
    (steps : Nat) {config : Config σ} (holds : Holds config.state) :
    Holds (config.after host steps).state := by
  induction steps generalizing config with
  | zero => exact holds
  | succ steps ih => exact ih (holds_step kept holds)

theorem holds_run (kept : ∀ request state, Holds state → Holds (host.answer request state).2)
    (steps : Nat) {config : Config σ} (holds : Holds config.state) :
    Holds (config.run host steps).state := by
  induction steps generalizing config with
  | zero => exact holds
  | succ steps ih =>
    rw [run]
    split
    · exact holds
    · exact ih (holds_step kept holds)

end Config

/-- What every answer of the host leaves true is still true after a run. -/
theorem Interpreter.holds_run {Holds : σ → Prop}
    (kept : ∀ request state, Holds state → Holds (host.answer request state).2)
    (interpreter : Interpreter) {state : σ} (behaviour : Behaviour Signal)
    (holds : Holds state) : Holds (interpreter.run host state behaviour).2.2 :=
  Config.holds_run kept interpreter.limit holds

end MediaImport.Script
