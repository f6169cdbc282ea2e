import MediaImport.Exchange.HostFunctions
import MediaImport.Proofs.Script.LibraryWork

/-!
# What the functions of the application ask for

Scripts reach the application through its own functions only, and each of them asks for little:
the printing function has its arguments printed, and the one that adds objects submits them
(`HostFunction.Asks`).  Whatever is called, it is one of these functions, or it asks for nothing at
all (`asksOnly_call`).
-/

namespace MediaImport.Script

variable {allowed : HostRequest → Prop}

theorem Behaviour.AsksOnly.mono {α : Type} {behaviour : Behaviour α} {few : HostRequest → Prop}
    (asks : behaviour.AsksOnly few) (more : ∀ request, few request → allowed request) :
    behaviour.AsksOnly allowed := by
  induction behaviour with
  | done | raise | fail | halt | tailCall | jump => trivial
  | read next ih => exact fun heap => ih heap (asks heap)
  | write change next ih => exact ih () asks
  | call site function arguments next ih => exact fun values => ih values (asks values)
  | attempt trial next ih => exact fun result => ih result (asks result)
  | caller level next ih => exact fun site => ih site (asks site)
  | enter code scope next ih => exact fun signal => ih signal (asks signal)
  | spawn function next ih => exact fun id => ih id (asks id)
  | resume thread arguments next ih => exact fun result => ih result (asks result)
  | yield values next ih => exact fun values => ih values (asks values)
  | status thread next ih => exact fun status => ih status (asks status)
  | close thread next ih => exact fun error => ih error (asks error)
  | running next ih => exact fun thread => ih thread (asks thread)
  | host request next ih => exact ⟨more request asks.1, fun reply => ih reply (asks.2 reply)⟩

/-- What a function of the application may ask for when it is called with arguments. -/
def HostFunction.Asks (arguments : List Value) : HostFunction → HostRequest → Prop
  | .print, .log values => values = arguments
  | .addObject, .surroundings => True
  | .addObject, .submit _ _ _ => True
  | .copyObject, .surroundings => True
  | .convert _, .surroundings => True
  | _, _ => False

end MediaImport.Script

namespace MediaImport.Exchange

open MediaImport.Media MediaImport.Script Script.Behaviour

variable {allowed : HostRequest → Prop}

theorem asksOnly_reading {α : Type} (reading : Reading α) :
    reading.behaviour.AsksOnly allowed := by
  induction reading with
  | done value => trivial
  | fail failure => trivial
  | get table key next ih =>
    rw [Reading.behaviour]
    intro result
    cases result with
    | ok values => exact ih (Value.first values)
    | error error => exact asksOnly_surface error

theorem asksOnly_bytesArgument (index : Nat) (value : Value) (wanted : String) :
    (bytesArgument index value wanted).AsksOnly allowed := by
  unfold bytesArgument
  split <;> trivial

theorem asksOnly_textArgument (index : Nat) (value : Value) :
    (textArgument? index value).AsksOnly allowed := by
  unfold textArgument?
  split
  · trivial
  · refine asksOnly_bind (asksOnly_bytesArgument _ _ _) fun contents => ?_
    split <;> trivial

theorem asksOnly_describedObject (function : String) (reader : Reader)
    (previous : Option Object) (value : Value) :
    (describedObject function reader previous value).AsksOnly allowed := by
  refine asksOnly_bind (asksOnly_reading _) fun object => ?_
  split <;> trivial

/-- Each function of the application asks for nothing but what is its own. -/
theorem asksOnly_apply (function : HostFunction) (arguments : List Value) :
    (apply function arguments).AsksOnly (function.Asks arguments) := by
  cases function with
  | print => exact asksOnly_bind (asksOnly_ask rfl) fun _ => trivial
  | addObject =>
    refine asksOnly_bind (asksOnly_textArgument _ _) fun chain => ?_
    refine asksOnly_bind (asksOnly_textArgument _ _) fun upnpClass => ?_
    refine asksOnly_bind (asksOnly_ask trivial) fun surroundings => ?_
    refine asksOnly_bind (asksOnly_describedObject _ _ _ _) fun object => ?_
    refine asksOnly_bind (asksOnly_ask trivial) fun reply => ?_
    cases reply <;> trivial
  | copyObject =>
    refine asksOnly_bind (asksOnly_ask trivial) fun surroundings => ?_
    refine asksOnly_bind (asksOnly_describedObject _ _ _ _) fun object => ?_
    exact fun _ => trivial
  | convert flavor =>
    refine asksOnly_bind (asksOnly_bytesArgument _ _ _) fun contents => ?_
    refine asksOnly_bind (asksOnly_ask trivial) fun surroundings => ?_
    split <;> trivial

variable {σ : Type} {answer : (request : HostRequest) → σ → request.Reply × σ}

/-- To call a value is to call a function of the application, or to ask for nothing. -/
theorem asksOnly_call (config : Config σ) (site : Option Site) (function : Value)
    (arguments : List Value) :
    (config.apply (.ofFunctions apply answer) site function arguments).AsksOnly allowed ∨
      ∃ (called : HostFunction) (values : List Value),
        config.apply (.ofFunctions apply answer) site function arguments =
          Signal.result <$> apply called values := by
  suffices through : ∀ (steps : Nat) (function : Value) (arguments : List Value),
      (Config.applyThrough (.ofFunctions apply answer) config.heap site steps function
        arguments).AsksOnly allowed ∨
      ∃ (called : HostFunction) (values : List Value),
        Config.applyThrough (.ofFunctions apply answer) config.heap site steps function arguments =
          Signal.result <$> apply called values from through _ function arguments
  intro steps
  induction steps with
  | zero => exact fun _ _ => .inl trivial
  | succ steps ih =>
    intro function arguments
    unfold Config.applyThrough
    split
    · split
      · exact .inl (asksOnly_closure _ _)
      · exact .inl trivial
    · next which =>
      cases which with
      | host called => exact .inr ⟨called, arguments, rfl⟩
      | routine routine => exact .inl (asksOnly_map _ (Library.asksOnly_routine _ _))
      | iterator search => exact .inl (asksOnly_map _ (Library.asksOnly_nextMatch _))
      | wrapped thread => exact .inl (asksOnly_map _ (Library.asksOnly_resumeWrapped _ _))
      | foreign function => exact .inl (asksOnly_map _ (Library.asksOnly_foreignFunction _ _))
      | idle => exact .inl trivial
    · split
      · exact .inl (asksOnly_refuseType _ _ _ _)
      · exact ih _ _

end MediaImport.Exchange
