import MediaImport.Proofs.Exchange.FunctionRequests
import MediaImport.Proofs.Importer.Isolation

/-!
# Printed lines

A context keeps the newest of the lines that its scripts print.  The values that are printed are
found from the runs of its scripts alone: they are what the machine asks the application to print,
call by call (`Event.printing`), and it asks for that only when the printing function is called
(`printsNothing_call`).  Whatever is done with an application, in whichever contexts and however it
ends, the log of a context is the end of the sequence of all lines that were printed in it, and a
look at the log sees the end of the log (`printed_eq_newest`).
-/

namespace MediaImport

open MediaImport.Importer MediaImport.Exchange MediaImport.Media MediaImport.Script

/-! ## The newest lines -/

namespace Importer.PrintLog

variable {α : Type} {log : PrintLog} {lines : List String}

theorem length_lastOf (count : Nat) (elements : List α) :
    (lastOf count elements).length = min count elements.length := by
  rw [lastOf, List.length_drop]
  omega

/-- The end of an end. -/
theorem lastOf_lastOf (outer inner : Nat) (elements : List α) :
    lastOf outer (lastOf inner elements) = lastOf (min outer inner) elements := by
  rw [lastOf, length_lastOf, lastOf, List.drop_drop, lastOf]
  congr 1
  omega

/-- What was cut off in front is not missed by whoever cuts off more later. -/
theorem lastOf_append_lastOf (count : Nat) (earlier later : List α) :
    lastOf count (lastOf count earlier ++ later) = lastOf count (earlier ++ later) := by
  have longer : lastOf count earlier ++ later =
      (earlier ++ later).drop (earlier.length - count) := by
    rw [lastOf, List.drop_append_of_le_length (Nat.sub_le _ _)]
  rw [longer, lastOf, List.length_drop, List.drop_drop, lastOf, List.length_append]
  congr 1
  omega

/-- A log keeps the newest of some lines. -/
def Keeps (log : PrintLog) (lines : List String) : Prop :=
  log.lines = lastOf capacity lines

theorem Keeps.push (keeps : log.Keeps lines) (line : String) :
    (log.push line).Keeps (lines ++ [line]) := by
  rw [Keeps, PrintLog.push, keeps, lastOf_append_lastOf]

theorem Keeps.latest (keeps : log.Keeps lines) (limit : Nat) :
    log.latest limit = lastOf (min limit capacity) lines := by
  rw [PrintLog.latest, keeps, lastOf_lastOf]

theorem Keeps.length_le (keeps : log.Keeps lines) : log.lines.length ≤ capacity := by
  rw [keeps, length_lastOf]
  exact Nat.min_le_left _ _

end Importer.PrintLog

/-! ## Calls of the printing function -/

/-- The values that are to be printed, if the request is one to print. -/
def Script.HostRequest.printed? : HostRequest → Option (List Value)
  | .log values => some values
  | _ => none

/-- A behaviour that never asks for anything to be printed. -/
def Script.Behaviour.PrintsNothing {α : Type} (behaviour : Behaviour α) : Prop :=
  behaviour.AsksOnly fun request => request.printed? = none

namespace Importer

/-- To call the printing function is to ask for its arguments to be printed. -/
theorem apply_print (config : Config Desk) (site : Option Site) (arguments : List Value) :
    config.apply host site (.native (.host .print)) arguments =
      .host (.log arguments) fun _ => .done (.result []) :=
  rfl

/-- The other functions of the application print nothing. -/
theorem printsNothing_apply {function : HostFunction} (other : function ≠ .print)
    (arguments : List Value) : (Exchange.apply function arguments).PrintsNothing := by
  refine (asksOnly_apply function arguments).mono fun request asks => ?_
  cases function with
  | print => exact absurd rfl other
  | _ => cases request <;> first | rfl | exact asks.elim

/-- Whatever is called, nothing is printed, or else the printing function is called. -/
theorem printsNothing_call (config : Config Desk) (site : Option Site) (function : Value)
    (arguments : List Value) :
    (config.apply host site function arguments).PrintsNothing ∨
      ∃ values, config.apply host site function arguments =
        config.apply host site (.native (.host .print)) values := by
  rcases asksOnly_call config site function arguments with nothing | ⟨called, values, same⟩
  · exact .inl nothing
  · by_cases prints : called = .print
    · obtain rfl := prints
      exact .inr ⟨values, same⟩
    · refine .inl ?_
      rw [host, same]
      exact Behaviour.asksOnly_map _ (printsNothing_apply prints values)

/-- An answer adds a line to the log if it was a line that was asked for. -/
theorem Desk.keeps_answer {desk : Desk} {lines : List String}
    (keeps : desk.environment.log.Keeps lines) (request : HostRequest) :
    (Desk.answer request desk).2.environment.log.Keeps
      (lines ++ request.printed?.toList.map printedLine) := by
  cases request with
  | surroundings => exact (List.append_nil lines).symm ▸ keeps
  | log values => exact keeps.push (printedLine values)
  | submit object chain upnpClass =>
    rw [Desk.answer]
    refine (List.append_nil lines).symm ▸ ?_
    split <;> exact keeps

/-- After answers, the log keeps the newest of the lines before and those that were asked for. -/
theorem Desk.keeps_stateAfter (requests : List HostRequest) {desk : Desk} {lines : List String}
    (keeps : desk.environment.log.Keeps lines) :
    (host.stateAfter desk requests).environment.log.Keeps
      (lines ++ (requests.filterMap HostRequest.printed?).map printedLine) := by
  induction requests generalizing desk lines with
  | nil => exact (List.append_nil lines).symm ▸ keeps
  | cons request requests ih =>
    have later := ih (Desk.keeps_answer keeps request)
    have split : ((request :: requests).filterMap HostRequest.printed?).map printedLine =
        request.printed?.toList.map printedLine ++
          (requests.filterMap HostRequest.printed?).map printedLine := by
      rw [List.filterMap_cons, ← List.map_append]
      cases request.printed? <;> rfl
    rw [split, ← List.append_assoc]
    exact later

end Importer

/-! ## What is printed under a number -/

namespace Importer

/-- The values that the context with a number prints while a course is performed on the
interpreter under a name, call by call. -/
def printing {α : Type} (importer : Importer) (name : String) (course : Course α)
    (number : Nat) : List (List Value) :=
  match importer.interpreters[name]? with
  | some slot =>
    if slot.environment = some number then
      (course.requests slot.interpreter (importer.deskOf slot)).filterMap HostRequest.printed?
    else []
  | none => []

/-- The values that the context with a number prints while the common script of a new context is
run. -/
def commonPrinting (importer : Importer) (source : ScriptSource) (context : Context)
    (path : String) (number : Nat) : List (List Value) :=
  if path.isEmpty then []
  else
    match importer.load source context path with
    | (.ok _, loaded) => loaded.printing context.name Course.runProgram number
    | (.error _, _) => []

/-- The values that the context with a number prints while a context is made, if the settings are
accepted and one comes of it. -/
def constructionPrinting (importer : Importer) (source : ScriptSource) (settings : Settings)
    (name : String) (purpose : Purpose) (number : Nat) :
    Except SetupFailure Conversions → Except Failure Context → List (List Value)
  | .ok conversions, .ok context =>
    (importer.enroll settings conversions name purpose).commonPrinting source context
      (settings.text .commonScript) number
  | _, _ => []

/-- The values that the context with a number prints during an operation. -/
def Operation.printing (importer : Importer) (number : Nat) : Operation → List (List Value)
  | execute context => importer.printing context.name Course.runProgram number
  | process context object =>
    let noted := importer.noteProcessed context object
    noted.printing context.name (Course.processing (noted.environmentOf context).reader object)
      number
  | use context course => importer.printing context.name course number
  | _ => []

end Importer

/-- What happens to an application. -/
inductive Event where
  /-- A context is made, as far as nothing is wanting, and the common script is run in it. -/
  | construct (shortage : Shortage) (source : ScriptSource) (settings : Settings) (name : String)
    (purpose : Purpose)
  | operation (operation : Operation)
  /-- The newest printed lines of a context are read. -/
  | readLog (context : Context) (limit : Nat)

namespace Event

/-- The application afterwards. -/
def apply (importer : Importer) : Event → Importer
  | construct shortage source settings name purpose =>
    (importer.constructUnder shortage source settings name purpose).2
  | .operation which => which.apply importer
  | readLog context limit => (Act.perform importer context (.readLog limit)).2

/-- The values that the context with a number prints meanwhile, call by call. -/
def printing (importer : Importer) (number : Nat) : Event → List (List Value)
  | construct shortage source settings name purpose =>
    importer.constructionPrinting source settings name purpose number
      (Conversions.ofSettings settings)
      (importer.constructUnder shortage source settings name purpose).1
  | .operation which => which.printing importer number
  | readLog _ _ => []

/-- The values that the context with a number prints while one thing happens after the other. -/
def printings (number : Nat) : Importer → List Event → List (List Value)
  | _, [] => []
  | importer, event :: events =>
    event.printing importer number ++ printings number (event.apply importer) events

end Event

/-! ## Logs agree with what is printed -/

namespace Importer

/-- The log of the environment with a number. -/
def logOf (importer : Importer) (number : Nat) : PrintLog :=
  (importer.environments[number]?.getD .absent).log

/-- Every log keeps the newest lines of what was printed under its number, and nothing was printed
under a number that no environment has had. -/
structure Remembers (importer : Importer) (printed : Nat → List (List Value)) : Prop where
  kept : ∀ number, (importer.logOf number).Keeps ((printed number).map printedLine)
  unused : ∀ number, importer.fresh ≤ number → printed number = []
  attached : ∀ (name : String) (slot : Slot) (number : Nat),
    importer.interpreters[name]? = some slot → slot.environment = some number →
      number < importer.fresh

variable {importer : Importer} {printed : Nat → List (List Value)}

theorem remembers_start (catalogue : Catalogue) (world : Nat → World) :
    Remembers { catalogue, world } fun _ => [] where
  kept _ := rfl
  unused _ _ := rfl
  attached name slot number found _ := by simp at found

theorem Remembers.lock (remembers : importer.Remembers printed) (lock : Lock) :
    Remembers { importer with lock := lock } printed :=
  ⟨remembers.kept, remembers.unused, remembers.attached⟩

/-- Nothing is printed under a number that no environment has had. -/
theorem Remembers.printing_of_unused {α : Type} (remembers : importer.Remembers printed)
    (name : String) (course : Course α) {number : Nat} (unused : importer.fresh ≤ number) :
    importer.printing name course number = [] := by
  unfold printing
  split
  · next slot found =>
    refine if_neg fun belongs => ?_
    exact absurd (remembers.attached name slot number found belongs) (by omega)
  · rfl

theorem logOf_putBack (name : String) (slot : Slot) (interpreter : Interpreter) (desk : Desk)
    (number : Nat) :
    (importer.putBack name slot interpreter desk).logOf number =
      if slot.environment = some number then desk.environment.log else importer.logOf number := by
  cases belongs : slot.environment with
  | none => simp [logOf, putBack, belongs]
  | some own =>
    by_cases same : own = number
    · simp [logOf, putBack, belongs, same]
    · simp [logOf, putBack, belongs, same, Std.ExtTreeMap.getElem?_insert]

theorem log_deskOf {slot : Slot} {number : Nat} (belongs : slot.environment = some number) :
    (importer.deskOf slot).environment.log = importer.logOf number := by
  rw [deskOf, belongs]
  rfl

/-- Work on an interpreter leaves what was printed before, and then what is printed during the
work. -/
theorem Remembers.workOn {α : Type} (remembers : importer.Remembers printed) (name : String)
    (course : Course (Except Failure α)) :
    Remembers (importer.workOn name course.work).2
      fun number => printed number ++ importer.printing name course number where
  kept number := by
    cases found : importer.interpreters[name]? with
    | none =>
      rw [workOn_of_missing found, printing, found]
      exact (List.append_nil (printed number)).symm ▸ remembers.kept number
    | some slot =>
      rw [workOn_of_found found, printing, found]
      dsimp only
      rw [logOf_putBack]
      by_cases belongs : slot.environment = some number
      · have start : (importer.deskOf slot).environment.log.Keeps
            ((printed number).map printedLine) := log_deskOf belongs ▸ remembers.kept number
        rw [if_pos belongs, if_pos belongs, List.map_append, Course.desk_perform]
        exact Desk.keeps_stateAfter _ start
      · rw [if_neg belongs, if_neg belongs, List.append_nil]
        exact remembers.kept number
  unused number beyond := by
    have beyond : importer.fresh ≤ number := by
      rwa [(worksOn_workOn importer name course.work).1.fresh] at beyond
    rw [remembers.unused number beyond, remembers.printing_of_unused name course beyond]
    rfl
  attached other slot number there belongs := by
    have works := (worksOn_workOn importer name course.work).1
    have owned := works.owner other
    rw [owner, there, Option.map_some, belongs] at owned
    obtain ⟨earlier, found, same⟩ := Option.map_eq_some_iff.mp owned.symm
    rw [works.fresh]
    exact remembers.attached other earlier number found same

theorem Remembers.use {α : Type} (remembers : importer.Remembers printed) (context : Context)
    (course : Course (Except Failure α)) :
    Remembers (importer.use context course.work).2
      fun number => printed number ++ importer.printing context.name course number :=
  ((remembers.lock importer.lock.acquire).workOn context.name course).lock _

theorem Remembers.execute (remembers : importer.Remembers printed) (context : Context) :
    Remembers (importer.execute context).2
      fun number => printed number ++ importer.printing context.name Course.runProgram number := by
  have used := remembers.use context Course.runProgram
  rwa [Course.work_runProgram] at used

/-- To load a program runs nothing. -/
theorem printing_load (importer : Importer) (name path text : String) (number : Nat) :
    importer.printing name (Course.load path text) number = [] := by
  unfold printing
  split
  · next slot found =>
    refine ite_eq_right_iff.mpr fun _ => ?_
    rw [Course.load, Course.requests]
    split <;> rfl
  · rfl

theorem Remembers.load (remembers : importer.Remembers printed) (source : ScriptSource)
    (context : Context) (path : String) :
    Remembers (importer.load source context path).2 printed := by
  unfold Importer.load
  split
  · exact remembers
  · next text read =>
    have used := remembers.use context (Course.load path text)
    simp only [printing_load, List.append_nil, Course.work_load] at used
    exact used

theorem Remembers.runCommonScript (remembers : importer.Remembers printed)
    (source : ScriptSource) (context : Context) (path : String) :
    Remembers (importer.runCommonScript source context path)
      fun number => printed number ++ importer.commonPrinting source context path number := by
  have loads := remembers.load source context path
  unfold Importer.runCommonScript commonPrinting
  by_cases blank : path.isEmpty = true
  · simpa [blank] using remembers
  · rcases went : importer.load source context path with ⟨result, later⟩
    rw [went] at loads
    cases result with
    | ok done => simpa [blank] using loads.execute context
    | error failure => simpa [blank] using loads

/-- Nothing was printed in a new context. -/
theorem Remembers.enroll (remembers : importer.Remembers printed) (settings : Settings)
    (conversions : Conversions) (name : String) (purpose : Purpose) :
    Remembers (importer.enroll settings conversions name purpose) printed where
  kept number := by
    by_cases new : importer.fresh = number
    · rw [remembers.unused number (by omega)]
      simp [logOf, Importer.enroll, new, PrintLog.Keeps, PrintLog.lastOf]
    · have same : (importer.enroll settings conversions name purpose).logOf number =
          importer.logOf number := by
        simp [logOf, Importer.enroll, new, Std.ExtTreeMap.getElem?_insert]
      rw [same]
      exact remembers.kept number
  unused number beyond := remembers.unused number (Nat.le_of_succ_le beyond)
  attached other slot number there belongs := by
    rw [Importer.enroll, Std.ExtTreeMap.getElem?_insert] at there
    refine Nat.lt_succ_iff.mpr ?_
    split at there
    · obtain rfl := Option.some.inj there
      exact Nat.le_of_eq (Option.some.inj belongs).symm
    · exact Nat.le_of_lt (remembers.attached other slot number there belongs)

theorem Remembers.noteProcessed (remembers : importer.Remembers printed) (context : Context)
    (object : Object) : Remembers (importer.noteProcessed context object) printed where
  kept number := by
    have same : (importer.noteProcessed context object).logOf number = importer.logOf number := by
      by_cases own : context.environment = number
      · simp [logOf, Importer.noteProcessed, environmentOf, own]
      · simp [logOf, Importer.noteProcessed, own, Std.ExtTreeMap.getElem?_insert]
    rw [same]
    exact remembers.kept number
  unused := remembers.unused
  attached := remembers.attached

theorem Remembers.destroyInterpreter (remembers : importer.Remembers printed) (name : String) :
    Remembers (importer.destroyInterpreter name).2 printed := by
  refine ⟨remembers.kept, remembers.unused, fun other slot number there belongs => ?_⟩
  rw [Importer.destroyInterpreter, Std.ExtTreeMap.getElem?_erase] at there
  split at there
  · cases there
  · exact remembers.attached other slot number there belongs

theorem Remembers.createBare (remembers : importer.Remembers printed) (name : String)
    (trust : TrustLevel) (world : World) :
    Remembers (importer.createBare name trust world).2 printed := by
  by_cases taken : name ∈ importer.interpreters
  · rw [createBare_of_taken taken]
    exact remembers.lock _
  · rw [createBare_of_new taken]
    refine ⟨remembers.kept, remembers.unused, fun other slot number there belongs => ?_⟩
    rw [Std.ExtTreeMap.getElem?_insert] at there
    split at there
    · obtain rfl := Option.some.inj there
      cases belongs
    · exact remembers.attached other slot number there belongs

theorem Remembers.process (remembers : importer.Remembers printed) (context : Context)
    (object : Object) :
    Remembers (importer.process context object).2
      fun number => printed number ++
        (Operation.process context object).printing importer number := by
  cases found : importer.interpreters[context.name]? with
  | none =>
    have nothing (number : Nat) :
        (Operation.process context object).printing importer number = [] := by
      simp [Operation.printing, printing, Importer.noteProcessed, found]
    simp only [process_of_missing found, nothing, List.append_nil]
    exact remembers.lock _
  | some slot =>
    rw [process_of_found found, ← Course.work_processing]
    exact (remembers.noteProcessed context object).use context _

/-! ## Whatever happens -/

/-- Every operation leaves each log in agreement with what is printed. -/
theorem Remembers.operation (remembers : importer.Remembers printed) (operation : Operation) :
    Remembers (operation.apply importer)
      fun number => printed number ++ operation.printing importer number := by
  cases operation with
  | setUp settings conversions name purpose =>
    simp only [Operation.printing, List.append_nil, Operation.apply]
    by_cases taken : name ∈ importer.interpreters
    · rw [locked_settingUp_of_taken taken]
      exact remembers.lock _
    · rw [locked_settingUp_of_new taken]
      exact remembers.enroll settings conversions name purpose
  | load source context path =>
    simp only [Operation.printing, List.append_nil]
    exact remembers.load source context path
  | execute context => exact remembers.execute context
  | process context object => exact remembers.process context object
  | use context course => exact remembers.use context course
  | drop context =>
    simp only [Operation.printing, List.append_nil]
    exact ((remembers.lock importer.lock.acquire).destroyInterpreter context.name).lock _
  | createBare name trust world =>
    simp only [Operation.printing, List.append_nil]
    exact remembers.createBare name trust world
  | destroy name =>
    simp only [Operation.printing, List.append_nil]
    exact ((remembers.lock importer.lock.acquire).destroyInterpreter name).lock _

/-- So does making a context, whatever it comes to. -/
theorem Remembers.construct (remembers : importer.Remembers printed) (shortage : Shortage)
    (source : ScriptSource) (settings : Settings) (name : String) (purpose : Purpose) :
    Remembers (importer.constructUnder shortage source settings name purpose).2
      fun number => printed number ++
        (Event.construct shortage source settings name purpose).printing importer number := by
  have comes := construction shortage source purpose importer settings name
  simp only [Event.printing]
  generalize importer.constructUnder shortage source settings name purpose = outcome at comes
  cases comes with
  | failed cause later same why =>
    have nothing (number : Nat) : importer.constructionPrinting source settings name purpose number
        (Conversions.ofSettings settings) (.error (.setup cause)) = [] := by
      cases Conversions.ofSettings settings <;> rfl
    simp only [nothing, List.append_nil]
    rcases same with rfl | rfl
    · exact remembers
    · exact remembers.lock _
  | made conversions accepted new enough =>
    simp only [accepted]
    exact (remembers.enroll settings conversions name purpose).runCommonScript source _ _

theorem Remembers.event (remembers : importer.Remembers printed) (event : Event) :
    Remembers (event.apply importer)
      fun number => printed number ++ event.printing importer number := by
  cases event with
  | construct shortage source settings name purpose =>
    exact remembers.construct shortage source settings name purpose
  | operation which => exact remembers.operation which
  | readLog context limit =>
    simp only [Event.printing, List.append_nil]
    exact remembers

theorem Remembers.events (remembers : importer.Remembers printed) (events : List Event) :
    Remembers (events.foldl Event.apply importer)
      fun number => printed number ++ Event.printings number importer events := by
  induction events generalizing importer printed with
  | nil =>
    simp only [Event.printings, List.append_nil]
    exact remembers
  | cons event events ih =>
    simp only [Event.printings, ← List.append_assoc]
    exact ih (remembers.event event)

/-- The log keeps exactly the newest lines.  Whatever happens to an application, and whichever
context's log is read with whichever limit: it shows the last lines that were printed in that
context, oldest first, as many as the limit, the capacity and the printed lines allow.  There is a
line for each call that prints, and it is the texts of the arguments with blanks between them.  A
log never holds more than 200 lines, and to read one changes nothing.

To print is to call the printing function.  It asks for its arguments to be printed, and whatever
else a machine calls, runs or does under protection, nothing of the kind is asked for. -/
theorem printed_eq_newest (catalogue : Catalogue) (world : Nat → World) (events : List Event)
    (context : Context) :
    let importer := events.foldl Event.apply { catalogue, world }
    let printings := Event.printings context.environment { catalogue, world } events
    let lines := printings.map fun arguments => " ".intercalate (arguments.map printedText)
    (∀ limit, importer.printed context limit =
      lines.drop (lines.length - min (min limit 200) lines.length)) ∧
    (importer.environmentOf context).log.lines.length ≤ 200 ∧
    (∀ limit, Act.perform importer context (.readLog limit) =
      (importer.printed context limit, importer)) ∧
    (∀ (config : Config Desk) (site : Option Site) (arguments : List Value),
      config.apply host site (.native (.host .print)) arguments =
        .host (.log arguments) fun _ => .done (.result [])) ∧
    (∀ (config : Config Desk) (site : Option Site) (function : Value) (arguments : List Value),
      (config.apply host site function arguments).PrintsNothing ∨
        ∃ values, config.apply host site function arguments =
          config.apply host site (.native (.host .print)) values) ∧
    (∀ (code : Code) (scope : Scope), (code.behaviour scope).PrintsNothing) ∧
    ∀ trial : Trial, trial.behaviour.PrintsNothing := by
  intro importer printings lines
  have remembers := (remembers_start catalogue world).events events
  have keeps : (importer.environmentOf context).log.Keeps lines :=
    remembers.kept context.environment
  refine ⟨fun limit => ?_, keeps.length_le, fun limit => rfl, apply_print, printsNothing_call,
    asksOnly_code, asksOnly_trial⟩
  rw [printed, keeps.latest, PrintLog.lastOf]
  congr 1
  have capacity : PrintLog.capacity = 200 := rfl
  omega

end Importer

end MediaImport
