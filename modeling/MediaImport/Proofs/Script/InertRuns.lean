import MediaImport.Proofs.Script.InertHeaps

/-!
# Interpreters that no script has run in

The functions of the application call nothing by themselves.  So as long as a heap holds nothing
to call but such functions, no function of a script and none of the script library is ever
called, and no coroutine is made.

`Behaviour.IsInert` says of a behaviour that it asks for no call but of such functions, and
changes no heap for the worse.  One step of the machine keeps that, and so does a run.  In
particular, what stands in the global variables can be replaced from outside for as long as only
functions of the application were called.
-/

namespace MediaImport.Script

open MediaImport.Exchange

/-! ## Behaviours that run no script -/

/-- What is done under protection runs no script. -/
def Trial.IsInert : Trial → Prop
  | .call function _ => function.IsInert
  | .index _ _ => True
  | .store _ _ _ => False
  | .describe _ => True

namespace Behaviour

variable {α β : Type}

/-- As long as the heap is inert, a behaviour calls nothing but functions of the application,
and leaves the heap inert. -/
def IsInert : Behaviour α → Prop
  | .done _ => True
  | .raise _ => True
  | .fail _ => True
  | .read next => ∀ heap, heap.IsInert → (next heap).IsInert
  | .write change next => (∀ heap, heap.IsInert → (change heap).IsInert) ∧ (next ()).IsInert
  | .call _ function _ next => function.IsInert ∧ ∀ values, (next values).IsInert
  | .attempt trial next => trial.IsInert ∧ ∀ result, (next result).IsInert
  | .caller _ next => ∀ site, (next site).IsInert
  | .host _ next => ∀ reply, (next reply).IsInert
  | _ => False

theorem IsInert.bind {first : Behaviour α} (inert : first.IsInert) {rest : α → Behaviour β}
    (goesOn : ∀ value, (rest value).IsInert) : (first.bind rest).IsInert := by
  induction first with
  | done value => exact goesOn value
  | raise error => trivial
  | fail failure => trivial
  | read next ih => exact fun heap good => ih heap (inert heap good)
  | write change next ih => exact ⟨inert.1, ih () inert.2⟩
  | call site function arguments next ih =>
    exact ⟨inert.1, fun values => ih values (inert.2 values)⟩
  | attempt trial next ih => exact ⟨inert.1, fun result => ih result (inert.2 result)⟩
  | caller level next ih => exact fun site => ih site (inert site)
  | host request next ih => exact fun reply => ih reply (inert reply)
  | _ => exact inert.elim

theorem IsInert.map {behaviour : Behaviour α} (inert : behaviour.IsInert) (change : α → β) :
    (change <$> behaviour).IsInert :=
  inert.bind fun _ => trivial

end Behaviour

open Behaviour

theorem isInert_refuseType {α : Type} (site : Option Site) (operation : String) (value : Value)
    (subject : Bytes) : (refuseType site operation value subject : Behaviour α).IsInert :=
  fun _ _ => trivial

/-- To look something up on the heap and go on with it, if every inert heap gives a good value
and every good value leads to something inert. -/
theorem isInert_look {α β : Type} (Good : α → Prop) {find : Heap → α} {rest : α → Behaviour β}
    (finds : ∀ heap, heap.IsInert → Good (find heap))
    (goesOn : ∀ value, Good value → (rest value).IsInert) :
    ((look find).bind rest).IsInert :=
  fun heap inert => goesOn _ (finds heap inert)

theorem isInert_index (site : Option Site) (value key : Value) (subject : Bytes) :
    (index site value key subject).IsInert := by
  suffices within : ∀ (limit : Nat) (value : Value) (subject : Bytes),
      (indexFrom site limit value key subject).IsInert from within chainLimit value subject
  intro limit
  induction limit with
  | zero => exact fun _ _ => trivial
  | succ limit ih =>
    intro value subject
    -- A table that has the key answers with the entry; everything else asks the metatable.
    refine isInert_look (fun looked => looked.2.IsInert) (fun heap inert => ?_)
      fun looked quiet => ?_
    · have handler := inert.metamethod value "__index" (by decide)
      split
      · split
        · exact handler
        · trivial
      · exact handler
    · dsimp only
      split
      · trivial
      · exact isInert_refuseType _ _ _ _
      · split
        · exact ⟨quiet, fun _ => trivial⟩
        · exact ih _ _

theorem isInert_describe (value : Value) : (describe value).IsInert := by
  refine isInert_look Value.IsInert
    (fun heap inert => inert.metamethod value "__tostring" (by decide)) fun handler quiet => ?_
  cases handler with
  | nil => exact fun _ _ => trivial
  | _ =>
    refine ⟨quiet, fun values => ?_⟩
    dsimp only
    split
    · trivial
    · exact fun _ => trivial

theorem Trial.IsInert.behaviour {trial : Trial} (inert : trial.IsInert) :
    trial.behaviour.IsInert := by
  cases trial with
  | call function arguments => exact ⟨inert, fun _ => trivial⟩
  | index subject key => exact (isInert_index none subject key []).map _
  | store subject key value => exact inert.elim
  | describe value => exact (isInert_describe value).map _

theorem isInert_settle (error : Value) : (settle error).IsInert := by
  suffices within : ∀ (limit : Nat) (error : Value), (settleWithin limit error).IsInert from
    within describeLimit error
  intro limit
  induction limit with
  | zero => exact fun _ => trivial
  | succ limit ih =>
    intro error
    unfold settleWithin
    split
    · trivial
    · refine ⟨trivial, fun result => ?_⟩
      cases result with
      | ok values => trivial
      | error later => exact ih later

theorem isInert_surface {α : Type} (error : Value) : (surface error : Behaviour α).IsInert := by
  refine (isInert_settle error).bind fun settled => ?_
  split
  · trivial
  · exact fun _ _ => trivial

/-! ## The functions of the application -/

section Functions

theorem isInert_reading {α : Type} (reading : Reading α) : reading.behaviour.IsInert := by
  induction reading with
  | done value => trivial
  | fail failure => trivial
  | get table key next ih =>
    rw [Reading.behaviour]
    refine ⟨trivial, fun result => ?_⟩
    cases result with
    | ok values => exact ih (Value.first values)
    | error error => exact isInert_surface error

theorem isInert_bytesArgument (index : Nat) (value : Value) (wanted : String) :
    (bytesArgument index value wanted).IsInert := by
  unfold bytesArgument
  split <;> trivial

theorem isInert_textArgument (index : Nat) (value : Value) :
    (textArgument? index value).IsInert := by
  unfold textArgument?
  split
  · trivial
  · refine (isInert_bytesArgument _ _ _).bind fun contents => ?_
    split <;> trivial

theorem isInert_describedObject (function : String) (reader : Reader)
    (previous : Option Media.Object) (value : Value) :
    (describedObject function reader previous value).IsInert := by
  refine (isInert_reading _).bind fun object => ?_
  split <;> trivial

theorem isInert_showing (object : Media.Object) :
    (ObjectTable.ofObject object).behaviour.IsInert :=
  fun _ inert => ⟨fun _ _ => inert.allocate object, trivial⟩

/-- The functions of the application call nothing by themselves. -/
theorem isInert_apply (function : HostFunction) (arguments : List Value) :
    (Exchange.apply function arguments).IsInert := by
  cases function with
  | print => exact fun _ => trivial
  | addObject =>
    refine (isInert_textArgument _ _).bind fun chain => ?_
    refine (isInert_textArgument _ _).bind fun upnpClass => ?_
    intro surroundings
    refine (isInert_describedObject _ _ _ _).bind fun object => ?_
    intro reply
    cases reply <;> trivial
  | copyObject =>
    intro surroundings
    refine (isInert_describedObject _ _ _ _).bind fun object => ?_
    exact (isInert_showing object).bind fun _ => trivial
  | convert flavor =>
    refine (isInert_bytesArgument _ _ _).bind fun contents => ?_
    intro surroundings
    dsimp only [Behaviour.bind]
    split <;> trivial

end Functions

/-! ## Runs -/

/-- A frame that waits in an inert run. -/
def Frame.IsInert : Frame → Prop
  | .call _ next => ∀ values, (next values).IsInert
  | .attempt next => ∀ result, (next result).IsInert
  | _ => False

namespace Config

variable {σ : Type} {answer : (request : HostRequest) → σ → request.Reply × σ}

/-- No script runs, and none will be called. -/
structure IsInert (config : Config σ) : Prop where
  heap : config.heap.IsInert
  focus : config.focus.IsInert
  frames : ∀ frame ∈ config.frames, frame.IsInert

/-- To call a harmless value is inert. -/
theorem isInert_applyThrough {heap : Heap} (inert : heap.IsInert) (site : Option Site)
    (steps : Nat) {function : Value} (harmless : function.IsInert) (arguments : List Value) :
    (applyThrough (.ofFunctions Exchange.apply answer) heap site steps function
      arguments).IsInert := by
  induction steps generalizing function arguments with
  | zero => trivial
  | succ steps ih =>
    have quiet := inert.metamethod function "__call" (by decide)
    unfold applyThrough
    split
    · exact harmless.elim
    · next which =>
      cases which with
      | host which => exact (isInert_apply which arguments).map _
      | idle => trivial
      | _ => exact harmless.elim
    · split
      · exact isInert_refuseType _ _ _ _
      · exact ih quiet _

theorem IsInert.beginWith {config : Config σ} (inert : config.IsInert) (site : Option Site)
    {frame : Frame} (waits : frame.IsInert) {focus : Behaviour Signal} (begins : focus.IsInert) :
    (config.beginWith site frame focus).IsInert := by
  unfold Config.beginWith
  split
  · exact ⟨inert.heap, trivial, inert.frames⟩
  · split
    · exact ⟨inert.heap, trivial, inert.frames⟩
    · exact ⟨inert.heap, begins, List.forall_mem_cons.mpr ⟨waits, inert.frames⟩⟩

theorem IsInert.finish {config : Config σ} (inert : config.IsInert) (signal : Signal) :
    (config.finish signal).IsInert := by
  have frames := inert.frames
  unfold Config.finish
  split
  · exact inert
  · next frame rest stack =>
    rw [stack] at frames
    obtain ⟨top, below⟩ := List.forall_mem_cons.mp frames
    cases frame with
    | call site next => exact ⟨inert.heap, top _, below⟩
    | attempt next => exact ⟨inert.heap, top _, below⟩
    | _ => exact top.elim

theorem IsInert.abandon {config : Config σ} (inert : config.IsInert) (error : Value) :
    (config.abandon error).IsInert := by
  have frames := inert.frames
  unfold Config.abandon
  split
  · exact inert
  · next frame rest stack =>
    rw [stack] at frames
    obtain ⟨top, below⟩ := List.forall_mem_cons.mp frames
    cases frame with
    | call site next => exact ⟨inert.heap, inert.focus, below⟩
    | attempt next => exact ⟨inert.heap, top _, below⟩
    | _ => exact top.elim

/-- A step keeps a run inert. -/
theorem IsInert.step {config : Config σ} (inert : config.IsInert) :
    (config.step (.ofFunctions Exchange.apply answer)).IsInert := by
  have focus := inert.focus
  cases asks : config.focus with
  | done signal =>
    simp only [Config.step, asks]
    exact inert.finish signal
  | raise error =>
    simp only [Config.step, asks]
    exact inert.abandon error
  | fail failure =>
    simp only [Config.step, asks]
    exact ⟨inert.heap.newFault failure, trivial, inert.frames⟩
  | read next =>
    simp only [Config.step, asks] at focus ⊢
    exact ⟨inert.heap, focus _ inert.heap, inert.frames⟩
  | write change next =>
    simp only [Config.step, asks] at focus ⊢
    exact ⟨focus.1 _ inert.heap, focus.2, inert.frames⟩
  | call site function arguments next =>
    simp only [Config.step, asks] at focus ⊢
    exact inert.beginWith site (show Frame.IsInert (.call site next) from focus.2)
      (isInert_applyThrough inert.heap site callChainLimit focus.1 arguments)
  | attempt trial next =>
    simp only [Config.step, asks] at focus ⊢
    exact inert.beginWith none (show Frame.IsInert (.attempt next) from focus.2)
      (focus.1.behaviour.map _)
  | caller level next =>
    simp only [Config.step, asks] at focus ⊢
    exact ⟨inert.heap, focus _, inert.frames⟩
  | host request next =>
    simp only [Config.step, asks] at focus ⊢
    exact ⟨inert.heap, focus _, inert.frames⟩
  | _ =>
    rw [asks] at focus
    exact focus.elim

theorem IsInert.run {config : Config σ} (inert : config.IsInert) (limit : Nat) :
    (config.run (.ofFunctions Exchange.apply answer) limit).IsInert := by
  induction limit generalizing config with
  | zero => exact inert
  | succ limit ih =>
    rw [Config.run]
    split
    · exact inert
    · exact ih inert.step

end Config

namespace Interpreter

variable {σ : Type} {answer : (request : HostRequest) → σ → request.Reply × σ}
  {interpreter : Interpreter}

theorem isInert_run (inert : interpreter.heap.IsInert) (state : σ) {behaviour : Behaviour Signal}
    (quiet : behaviour.IsInert) :
    (interpreter.run (.ofFunctions Exchange.apply answer) state behaviour).2.1.heap.IsInert := by
  have begins : (interpreter.start state behaviour).IsInert :=
    ⟨inert, quiet, List.forall_mem_nil _⟩
  exact (begins.run interpreter.limit).heap

theorem isInert_explain (inert : interpreter.heap.IsInert) (state : σ) (error : Value) :
    (interpreter.explain (.ofFunctions Exchange.apply answer) state error).2.1.heap.IsInert := by
  have ran : (interpreter.run (.ofFunctions Exchange.apply answer) state
      ((fun value => Signal.result [value]) <$> settle error)).2.1.heap.IsInert :=
    isInert_run inert state ((isInert_settle error).map _)
  rw [explain]
  rcases went : interpreter.run (.ofFunctions Exchange.apply answer) state
      ((fun value => Signal.result [value]) <$> settle error) with
    ⟨(error | values) | how, later, after⟩
  all_goals
    rw [went] at ran
    exact ran

/-- An interpreter that runs such a behaviour, and explains its error if there is one, is inert
still. -/
theorem isInert_attempt (inert : interpreter.heap.IsInert) (state : σ)
    {behaviour : Behaviour Signal} (quiet : behaviour.IsInert) :
    (interpreter.attempt (.ofFunctions Exchange.apply answer) state
      behaviour).2.1.heap.IsInert := by
  have ran : (interpreter.run (.ofFunctions Exchange.apply answer) state
      behaviour).2.1.heap.IsInert := isInert_run inert state quiet
  rw [attempt]
  rcases went : interpreter.run (.ofFunctions Exchange.apply answer) state behaviour with
    ⟨(error | values) | how, later, after⟩
  all_goals rw [went] at ran
  · exact isInert_explain ran after error
  · exact ran
  · exact ran

end Interpreter

end MediaImport.Script
