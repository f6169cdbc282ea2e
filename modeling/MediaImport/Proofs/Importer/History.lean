import Mathlib.Logic.Function.Basic
import MediaImport.Proofs.Importer.Courses

/-!
# Histories of an application

An application makes contexts, loads programs into them, runs them, hands objects to
them and drops them, in any order, and whatever is done may fail.  Interpreters may also
be made and destroyed without a context.

Beside the state of the application, a history keeps an account of each context: what it
was made with, and the object that was handed to it last.  The accounts know nothing of
interpreters, scripts or failures.  In every history they say what surrounds the scripts
of a context at any moment of their runs.
-/

namespace MediaImport.Importer

open MediaImport.Exchange MediaImport.Media MediaImport.Script

/-- What is known of a context by its user. -/
structure Account where
  name : String
  purpose : Purpose
  conversions : Conversions
  /-- The object that was handed to the context last, to be processed. -/
  handed : Option Object := none

/-- What surrounds the scripts of a context, by its account. -/
def Account.surroundings (account : Account) : Surroundings :=
  ⟨account.purpose, account.conversions, account.handed⟩

/-- The accounts of contexts, by the numbers of their environments. -/
abbrev Accounts :=
  Nat → Option Account

/-- An object is handed to the context with a number. -/
def Accounts.hand (accounts : Accounts) (number : Nat) (object : Object) : Accounts :=
  Function.update accounts number
    ((accounts number).map ({ · with handed := some object }))

/-- An application, and the accounts of its contexts. -/
structure History where
  importer : Importer := {}
  accounts : Accounts := fun _ => none

/-- A context was made, and has kept its name and number. -/
def History.Knows (history : History) (context : Context) : Prop :=
  ∃ account, history.accounts context.environment = some account ∧ account.name = context.name

/-- What is done with an application from outside. -/
inductive Operation where
  | setUp (settings : Settings) (conversions : Conversions) (name : String) (purpose : Purpose)
  | load (source : ScriptSource) (context : Context) (path : String)
  | execute (context : Context)
  | process (context : Context) (object : Object)
  /-- Work on the interpreter of a context, such as calls of functions in it. -/
  | use (context : Context) (course : Course (Except Failure (List Value)))
  | drop (context : Context)
  | createBare (name : String) (trust : TrustLevel) (world : World := {})
  | destroy (name : String)

namespace Operation

/-- Set up a context while holding the lock. -/
def settingUp (settings : Settings) (conversions : Conversions) (name : String)
    (purpose : Purpose) (importer : Importer) : Except Failure Context × Importer :=
  match importer.setUp settings conversions name purpose with
  | .ok (context, importer) => (.ok context, importer)
  | .error cause => (.error (.setup cause), importer)

/-- The application after an operation, whether or not it failed. -/
def apply (importer : Importer) : Operation → Importer
  | setUp settings conversions name purpose =>
    (importer.locked (settingUp settings conversions name purpose)).2
  | load source context path => (importer.load source context path).2
  | execute context => (importer.execute context).2
  | process context object => (importer.process context object).2
  | use context course => (importer.use context course.work).2
  | drop context => importer.drop context
  | createBare name trust world => (importer.createBare name trust world).2
  | destroy name => (importer.destroy name).2

/-- The accounts after an operation. -/
def record (history : History) : Operation → Accounts
  | setUp settings conversions name purpose =>
    match history.importer.setUp settings conversions name purpose with
    | .ok (context, _) =>
      Function.update history.accounts context.environment
        (some { name, purpose, conversions })
    | .error _ => history.accounts
  | process context object => history.accounts.hand context.environment object
  | _ => history.accounts

/-- An operation is done with a context that there is, if with any. -/
def IsGenuine (history : History) : Operation → Prop
  | load _ context _ => history.Knows context
  | execute context => history.Knows context
  | process context _ => history.Knows context
  | use context _ => history.Knows context
  | drop context => history.Knows context
  | _ => True

end Operation

/-- A history goes on with an operation. -/
def History.next (history : History) (operation : Operation) : History where
  importer := operation.apply history.importer
  accounts := operation.record history

theorem History.importer_next (history : History) (operation : Operation) :
    (history.next operation).importer = operation.apply history.importer :=
  rfl

/-- The histories of all applications, whatever is outside. -/
inductive History.Reachable : History → Prop where
  | start (world : Nat → World := fun _ => {}) : Reachable { importer := { world } }
  | next {history : History} (reachable : history.Reachable) {operation : Operation}
    (genuine : operation.IsGenuine history) : Reachable (history.next operation)

/-! ## What machines pass through -/

/-- The desk of the scripts of an interpreter. -/
def deskOf (importer : Importer) (slot : Slot) : Desk :=
  ⟨(slot.environment.bind fun id => importer.environments[id]?).getD .absent, importer.catalogue⟩

/-- A configuration that is passed through by a machine of the context with a number, while
a course is performed on the interpreter under a name. -/
def Passes {α : Type} (importer : Importer) (name : String) (course : Course α) (number : Nat)
    (config : Config Desk) : Prop :=
  ∃ slot, importer.interpreters[name]? = some slot ∧ slot.environment = some number ∧
    course.Visits config slot.interpreter (importer.deskOf slot)

/-- A configuration that is passed through by a machine of the context with a number, during
an operation. -/
def Operation.Visits (importer : Importer) (number : Nat) (config : Config Desk) :
    Operation → Prop
  | execute context => importer.Passes context.name Course.runProgram number config
  | process context object =>
    let noted := importer.noteProcessed context object
    noted.Passes context.name (Course.processing (noted.environmentOf context).reader object)
      number config
  | use context course => importer.Passes context.name course number config
  | _ => False

/-! ## Accounts agree with environments -/

/-- Accounts say what surrounds the scripts of every interpreter that belongs to a
context. -/
structure Agrees (accounts : Accounts) (importer : Importer) : Prop where
  unused : ∀ number, importer.fresh ≤ number → accounts number = none
  attached : ∀ (name : String) (slot : Slot) (number : Nat),
    importer.interpreters[name]? = some slot → slot.environment = some number →
      ∃ account environment, accounts number = some account ∧ account.name = name ∧
        importer.environments[number]? = some environment ∧
        environment.surroundings = account.surroundings

/-- The application when the work on an interpreter is over. -/
def putBack (importer : Importer) (name : String) (slot : Slot) (interpreter : Interpreter)
    (desk : Desk) : Importer :=
  { importer with
    interpreters := importer.interpreters.insert name { slot with interpreter }
    environments :=
      match slot.environment with
      | some id => importer.environments.insert id desk.environment
      | none => importer.environments
    catalogue := desk.catalogue }

theorem workOn_of_missing {α : Type} {importer : Importer} {name : String}
    (missing : importer.interpreters[name]? = none) (work : Work α) :
    importer.workOn name work = (.error (.setup (.contextMissing name)), importer) := by
  rw [workOn, slot, missing]

theorem workOn_of_found {α : Type} {importer : Importer} {name : String} {slot : Slot}
    (found : importer.interpreters[name]? = some slot) (course : Course (Except Failure α)) :
    importer.workOn name course.work =
      let (result, interpreter, desk) := course.perform slot.interpreter (importer.deskOf slot)
      (result, importer.putBack name slot interpreter desk) := by
  rw [workOn, Importer.slot, found]
  rfl

variable {accounts : Accounts} {importer : Importer}

theorem Agrees.of_lock (lock : Lock) (agrees : Agrees accounts { importer with lock := lock }) :
    Agrees accounts importer :=
  ⟨agrees.unused, agrees.attached⟩

theorem Agrees.lock (agrees : Agrees accounts importer) (lock : Lock) :
    Agrees accounts { importer with lock := lock } :=
  ⟨agrees.unused, agrees.attached⟩

theorem Agrees.start (world : Nat → World) : Agrees (fun _ => none) { world } where
  unused _ _ := rfl
  attached name slot number found _ := by
    simp at found

/-- What surrounds the scripts of an interpreter that belongs to a context. -/
theorem Agrees.deskOf (agrees : Agrees accounts importer) {name : String} {slot : Slot}
    {number : Nat} (found : importer.interpreters[name]? = some slot)
    (belongs : slot.environment = some number) :
    ∃ account, accounts number = some account ∧ account.name = name ∧
      (importer.deskOf slot).Surrounds account.surroundings := by
  obtain ⟨account, environment, known, named, kept, same⟩ :=
    agrees.attached name slot number found belongs
  refine ⟨account, known, named, ?_⟩
  rw [← same, Desk.Surrounds, Importer.deskOf, belongs, Option.bind_some, kept, Option.getD_some]

/-- Work that leaves what surrounds the scripts as it is leaves the accounts true. -/
theorem Agrees.putBack (agrees : Agrees accounts importer) {name : String} {slot : Slot}
    (found : importer.interpreters[name]? = some slot) (interpreter : Interpreter) {desk : Desk}
    (same : desk.Surrounds (importer.deskOf slot).environment.surroundings) :
    Agrees accounts (importer.putBack name slot interpreter desk) := by
  have surrounds : ∀ (number : Nat) (environment : Environment),
      importer.environments[number]? = some environment →
        ∃ later, (importer.putBack name slot interpreter desk).environments[number]? = some later ∧
          later.surroundings = environment.surroundings := by
    intro number environment kept
    cases belongs : slot.environment with
    | none =>
      refine ⟨environment, ?_, rfl⟩
      simp only [Importer.putBack, belongs]
      exact kept
    | some id =>
      simp only [Importer.putBack, belongs, Std.ExtTreeMap.getElem?_insert]
      split
      · next equal =>
        obtain rfl := Std.LawfulEqCmp.eq_of_compare equal
        refine ⟨desk.environment, rfl, ?_⟩
        rw [same, Importer.deskOf, belongs, Option.bind_some, kept, Option.getD_some]
      · exact ⟨environment, kept, rfl⟩
  constructor
  · exact agrees.unused
  · intro other otherSlot number there belongs
    have before : ∃ earlier, importer.interpreters[other]? = some earlier ∧
        earlier.environment = some number := by
      rw [Importer.putBack, Std.ExtTreeMap.getElem?_insert] at there
      split at there
      · next equal =>
        obtain rfl := Std.LawfulEqCmp.eq_of_compare equal
        obtain rfl := Option.some.inj there
        exact ⟨slot, found, belongs⟩
      · exact ⟨otherSlot, there, belongs⟩
    obtain ⟨earlier, there, belongs⟩ := before
    obtain ⟨account, environment, known, named, kept, agree⟩ :=
      agrees.attached other earlier number there belongs
    obtain ⟨later, put, unchanged⟩ := surrounds number environment kept
    exact ⟨account, later, known, named, put, unchanged.trans agree⟩

theorem Agrees.workOn {α : Type} (agrees : Agrees accounts importer) (name : String)
    (course : Course (Except Failure α)) :
    Agrees accounts (importer.workOn name course.work).2 := by
  cases found : importer.interpreters[name]? with
  | none =>
    rw [workOn_of_missing found]
    exact agrees
  | some slot =>
    rw [workOn_of_found found]
    exact agrees.putBack found _ (course.surrounds_perform slot.interpreter rfl)

theorem Agrees.use {α : Type} (agrees : Agrees accounts importer) (context : Context)
    (course : Course (Except Failure α)) :
    Agrees accounts (importer.use context course.work).2 :=
  ((agrees.lock importer.lock.acquire).workOn context.name course).lock _

/-- A machine of a context is surrounded by what the account of the context says. -/
theorem Agrees.passes {α : Type} (agrees : Agrees accounts importer) {name : String}
    {course : Course α} {number : Nat} {config : Config Desk}
    (passes : importer.Passes name course number config) :
    ∃ account, accounts number = some account ∧ account.name = name ∧
      config.state.Surrounds account.surroundings := by
  obtain ⟨slot, found, belongs, visits⟩ := passes
  obtain ⟨account, known, named, surrounds⟩ := agrees.deskOf found belongs
  exact ⟨account, known, named, course.surrounds_visits slot.interpreter surrounds visits⟩

/-! ## What is done with interpreters -/

theorem Agrees.destroyInterpreter (agrees : Agrees accounts importer) (name : String) :
    Agrees accounts (importer.destroyInterpreter name).2 := by
  refine ⟨agrees.unused, ?_⟩
  intro other slot number there belongs
  rw [Importer.destroyInterpreter, Std.ExtTreeMap.getElem?_erase] at there
  split at there
  · cases there
  · exact agrees.attached other slot number there belongs

theorem Agrees.insertBare (agrees : Agrees accounts importer) (name : String)
    (interpreter : Interpreter) :
    Agrees accounts { importer with
      interpreters := importer.interpreters.insert name ⟨interpreter, none⟩ } := by
  refine ⟨agrees.unused, ?_⟩
  intro other slot number there belongs
  rw [Std.ExtTreeMap.getElem?_insert] at there
  split at there
  · obtain rfl := Option.some.inj there
    cases belongs
  · exact agrees.attached other slot number there belongs

theorem Agrees.createBare (agrees : Agrees accounts importer) (name : String)
    (trust : TrustLevel) (world : World) :
    Agrees accounts (importer.createBare name trust world).2 := by
  refine Agrees.of_lock importer.lock.acquire ?_
  rw [Importer.createBare, locked]
  by_cases taken : name ∈ importer.interpreters
  · simp only [createInterpreter, taken, if_true]
    exact agrees.lock _
  · simp only [createInterpreter, taken, if_false]
    exact (agrees.lock _).insertBare name _

theorem setUp_of_taken {name : String} (taken : name ∈ importer.interpreters)
    (settings : Settings) (conversions : Conversions) (purpose : Purpose) :
    importer.setUp settings conversions name purpose = .error (.contextExists name) := by
  rw [setUp, createInterpreter, if_pos taken]
  rfl

theorem setUp_of_new {name : String} (new : name ∉ importer.interpreters)
    (settings : Settings) (conversions : Conversions) (purpose : Purpose) :
    importer.setUp settings conversions name purpose =
      .ok (⟨name, importer.fresh⟩, { importer with
        interpreters := importer.interpreters.insert name
          ⟨prepared settings (importer.world importer.fresh), some importer.fresh⟩
        environments := importer.environments.insert importer.fresh { purpose, conversions }
        fresh := importer.fresh + 1 }) := by
  rw [setUp, createInterpreter, if_neg new]
  rfl

theorem locked_settingUp_of_taken {name : String} (taken : name ∈ importer.interpreters)
    (settings : Settings) (conversions : Conversions) (purpose : Purpose) :
    importer.locked (Operation.settingUp settings conversions name purpose) =
      (.error (.setup (.contextExists name)),
        { importer with lock := importer.lock.acquire.release }) := by
  have held : name ∈ { importer with lock := importer.lock.acquire }.interpreters := taken
  rw [locked, Operation.settingUp, setUp_of_taken held]

theorem locked_settingUp_of_new {name : String} (new : name ∉ importer.interpreters)
    (settings : Settings) (conversions : Conversions) (purpose : Purpose) :
    importer.locked (Operation.settingUp settings conversions name purpose) =
      (.ok ⟨name, importer.fresh⟩, { importer with
        lock := importer.lock.acquire.release
        interpreters := importer.interpreters.insert name
          ⟨prepared settings (importer.world importer.fresh), some importer.fresh⟩
        environments := importer.environments.insert importer.fresh { purpose, conversions }
        fresh := importer.fresh + 1 }) := by
  have held : name ∉ { importer with lock := importer.lock.acquire }.interpreters := new
  rw [locked, Operation.settingUp, setUp_of_new held]

theorem Agrees.setUp (agrees : Agrees accounts importer) (settings : Settings)
    (conversions : Conversions) (name : String) (purpose : Purpose) (lock : Lock) :
    Agrees (Function.update accounts importer.fresh (some { name, purpose, conversions }))
      { importer with
        lock := lock
        interpreters := importer.interpreters.insert name
          ⟨prepared settings (importer.world importer.fresh), some importer.fresh⟩
        environments := importer.environments.insert importer.fresh { purpose, conversions }
        fresh := importer.fresh + 1 } := by
  constructor
  · intro number above
    rw [Function.update_of_ne (Nat.ne_of_gt above)]
    exact agrees.unused number (Nat.le_of_succ_le above)
  · intro other slot number there belongs
    rw [Std.ExtTreeMap.getElem?_insert] at there
    split at there
    · next equal =>
      obtain rfl := Std.LawfulEqCmp.eq_of_compare equal
      obtain rfl := Option.some.inj there
      obtain rfl := Option.some.inj belongs
      refine ⟨{ name, purpose, conversions }, { purpose, conversions },
        Function.update_self _ _ _, rfl, ?_, rfl⟩
      exact Std.ExtTreeMap.getElem?_insert_self
    · obtain ⟨account, environment, known, named, kept, same⟩ :=
        agrees.attached other slot number there belongs
      have older : number ≠ importer.fresh := by
        rintro rfl
        rw [agrees.unused _ (Nat.le_refl _)] at known
        cases known
      refine ⟨account, environment, ?_, named, ?_, same⟩
      · rw [Function.update_of_ne older]
        exact known
      · rw [Std.ExtTreeMap.getElem?_insert, if_neg]
        · exact kept
        · intro equal
          exact older (Std.LawfulEqCmp.eq_of_compare equal).symm

/-! ## Handing an object to a context -/

theorem Agrees.noteProcessed (agrees : Agrees accounts importer) (context : Context)
    (object : Object) :
    Agrees (accounts.hand context.environment object) (importer.noteProcessed context object) := by
  constructor
  · intro number above
    have absent := agrees.unused number above
    by_cases same : number = context.environment
    · subst same
      rw [Accounts.hand, Function.update_self, absent]
      rfl
    · rw [Accounts.hand, Function.update_of_ne same]
      exact absent
  · intro name slot number there belongs
    obtain ⟨account, environment, known, named, kept, agree⟩ :=
      agrees.attached name slot number there belongs
    by_cases same : number = context.environment
    · subst same
      refine ⟨{ account with handed := some object }, { environment with processed := some object },
        ?_, named, ?_, ?_⟩
      · rw [Accounts.hand, Function.update_self, known]
        rfl
      · rw [Importer.noteProcessed, environmentOf, kept]
        exact Std.ExtTreeMap.getElem?_insert_self
      · injection agree with samePurpose sameConversions
        rw [Environment.surroundings, samePurpose, sameConversions]
        rfl
    · refine ⟨account, environment, ?_, named, ?_, agree⟩
      · rw [Accounts.hand, Function.update_of_ne same]
        exact known
      · rw [Importer.noteProcessed, Std.ExtTreeMap.getElem?_insert, if_neg]
        · exact kept
        · intro equal
          exact same (Std.LawfulEqCmp.eq_of_compare equal).symm

/-- If the interpreter of a context is gone, no script can tell what is handed to it. -/
theorem Agrees.hand_of_missing (agrees : Agrees accounts importer) {context : Context}
    {account : Account} (known : accounts context.environment = some account)
    (named : account.name = context.name)
    (missing : importer.interpreters[context.name]? = none) (object : Object) :
    Agrees (accounts.hand context.environment object) importer := by
  constructor
  · intro number above
    have absent := agrees.unused number above
    rw [Accounts.hand, Function.update_of_ne]
    · exact absent
    · rintro rfl
      rw [absent] at known
      cases known
  · intro name slot number there belongs
    obtain ⟨other, environment, otherKnown, otherNamed, kept, agree⟩ :=
      agrees.attached name slot number there belongs
    refine ⟨other, environment, ?_, otherNamed, kept, agree⟩
    rw [Accounts.hand, Function.update_of_ne]
    · exact otherKnown
    · rintro rfl
      obtain rfl := Option.some.inj (known.symm.trans otherKnown)
      rw [← otherNamed, named, missing] at there
      cases there

theorem Agrees.process (agrees : Agrees accounts importer) {context : Context}
    {account : Account} (known : accounts context.environment = some account)
    (named : account.name = context.name) (object : Object) :
    Agrees (accounts.hand context.environment object) (importer.process context object).2 := by
  refine Agrees.of_lock importer.lock.acquire ?_
  rw [Importer.process, locked]
  have held := agrees.lock importer.lock.acquire
  cases found : importer.interpreters[context.name]? with
  | none =>
    simp only [slot, found]
    exact (held.hand_of_missing known named found object).lock _
  | some slot =>
    simp only [Importer.slot, found]
    rw [← Course.work_processing]
    exact ((held.noteProcessed context object).workOn context.name _).lock _

theorem workOn_keeps {α : Type} {importer : Importer} {name : String} {slot : Slot}
    (found : importer.interpreters[name]? = some slot) (course : Course (Except Failure α)) :
    ∃ interpreter, (importer.workOn name course.work).2.interpreters[name]? =
      some { slot with interpreter } := by
  rw [workOn_of_found found]
  refine ⟨(course.perform slot.interpreter (importer.deskOf slot)).2.1, ?_⟩
  exact Std.ExtTreeMap.getElem?_insert_self

/-- A context keeps its interpreter and its number when it processes an object. -/
theorem process_keeps {importer : Importer} (context : Context) {slot : Slot}
    (found : importer.interpreters[context.name]? = some slot) (object : Object) :
    ∃ interpreter, (importer.process context object).2.interpreters[context.name]? =
      some { slot with interpreter } := by
  have noted : ({ importer with lock := importer.lock.acquire }.noteProcessed context
      object).interpreters[context.name]? = some slot := found
  rw [Importer.process, locked]
  simp only [Importer.slot, found]
  rw [← Course.work_processing]
  exact workOn_keeps noted _

/-! ## Whole histories -/

/-- Every operation leaves the accounts true. -/
theorem Agrees.next {history : History} (agrees : Agrees history.accounts history.importer)
    {operation : Operation} (genuine : operation.IsGenuine history) :
    Agrees (history.next operation).accounts (history.next operation).importer := by
  have held := agrees.lock history.importer.lock.acquire
  cases operation with
  | setUp settings conversions name purpose =>
    by_cases taken : name ∈ history.importer.interpreters
    · simp only [History.next, Operation.record, Operation.apply, setUp_of_taken taken,
        locked_settingUp_of_taken taken]
      exact held.lock _
    · simp only [History.next, Operation.record, Operation.apply, setUp_of_new taken,
        locked_settingUp_of_new taken]
      exact agrees.setUp settings conversions name purpose _
  | load source context path =>
    change Agrees history.accounts (history.importer.load source context path).2
    rw [load]
    split
    · exact agrees
    · next text read =>
      rw [← Course.work_load]
      exact agrees.use context (Course.load path text)
  | execute context =>
    change Agrees history.accounts (history.importer.execute context).2
    rw [execute, ← Course.work_runProgram]
    exact agrees.use context Course.runProgram
  | process context object =>
    obtain ⟨account, known, named⟩ := genuine
    exact agrees.process known named object
  | use context course => exact agrees.use context course
  | drop context => exact (held.destroyInterpreter context.name).lock _
  | createBare name trust world => exact agrees.createBare name trust world
  | destroy name => exact (held.destroyInterpreter name).lock _

theorem History.Reachable.agrees {history : History} (reachable : history.Reachable) :
    Agrees history.accounts history.importer := by
  induction reachable with
  | start world => exact Agrees.start world
  | next reachable genuine ih => exact ih.next genuine

/-- Whatever happened before, what surrounds a running script is what its context was made
with, and the object that was handed to its context last. -/
theorem History.Reachable.surrounds {history : History} (reachable : history.Reachable)
    {operation : Operation} (genuine : operation.IsGenuine history) {number : Nat}
    {config : Config Desk} (visits : operation.Visits history.importer number config) :
    ∃ account, (history.next operation).accounts number = some account ∧
      config.state.Surrounds account.surroundings := by
  have agrees := reachable.agrees
  cases operation with
  | execute context =>
    obtain ⟨account, known, -, surrounds⟩ := agrees.passes visits
    exact ⟨account, known, surrounds⟩
  | process context object =>
    obtain ⟨account, known, -, surrounds⟩ :=
      (agrees.noteProcessed context object).passes visits
    exact ⟨account, known, surrounds⟩
  | use context course =>
    obtain ⟨account, known, -, surrounds⟩ := agrees.passes visits
    exact ⟨account, known, surrounds⟩
  | _ => exact visits.elim

/-! ## Making a context -/

/-- The common script is loaded, and run if that went well. -/
theorem History.Reachable.runCommonScript {history : History} (reachable : history.Reachable)
    {context : Context} (known : history.Knows context) (source : ScriptSource) (path : String) :
    ∃ later : History, later.Reachable ∧ later.accounts = history.accounts ∧
      later.importer = history.importer.runCommonScript source context path := by
  rw [Importer.runCommonScript]
  split
  · exact ⟨history, reachable, rfl, rfl⟩
  · have loaded : (history.next (.load source context path)).Reachable := reachable.next known
    split
    · next result importer went =>
      refine ⟨(history.next (.load source context path)).next (.execute context),
        loaded.next known, rfl, ?_⟩
      change ((history.importer.load source context path).2.execute context).2 = _
      rw [went]
    · next failure importer went =>
      refine ⟨history.next (.load source context path), loaded, rfl, ?_⟩
      change (history.importer.load source context path).2 = _
      rw [went]

theorem construct_of_taken {name : String} (taken : name ∈ importer.interpreters)
    {settings : Settings} {conversions : Conversions}
    (accepted : Conversions.ofSettings settings = .ok conversions) (source : ScriptSource)
    (purpose : Purpose) :
    importer.construct source settings name purpose =
      (.error (.setup (.contextExists name)),
        (Operation.setUp settings conversions name purpose).apply importer) := by
  have held : name ∈ { importer with lock := importer.lock.acquire }.interpreters := taken
  unfold construct
  rw [accepted, Operation.apply, locked_settingUp_of_taken taken]
  simp only [locked]
  rw [setUp_of_taken held]

theorem construct_of_new {name : String} (new : name ∉ importer.interpreters)
    {settings : Settings} {conversions : Conversions}
    (accepted : Conversions.ofSettings settings = .ok conversions) (source : ScriptSource)
    (purpose : Purpose) :
    importer.construct source settings name purpose =
      (.ok ⟨name, importer.fresh⟩,
        ((Operation.setUp settings conversions name purpose).apply importer).runCommonScript source
          ⟨name, importer.fresh⟩ (settings.text .commonScript)) := by
  have held : name ∉ { importer with lock := importer.lock.acquire }.interpreters := new
  unfold construct
  rw [accepted, Operation.apply, locked_settingUp_of_new new]
  simp only [locked]
  rw [setUp_of_new held]

/-- Making a context is to set it up, and then to load and run the common script in it.  The
context that is made is known from then on. -/
theorem History.Reachable.construct {history : History} (reachable : history.Reachable)
    (source : ScriptSource) (settings : Settings) (name : String) (purpose : Purpose) :
    ∃ later : History, later.Reachable ∧
      later.importer = (history.importer.construct source settings name purpose).2 ∧
      ∀ context, (history.importer.construct source settings name purpose).1 = .ok context →
        later.Knows context := by
  cases accepted : Conversions.ofSettings settings with
  | error cause =>
    unfold Importer.construct
    rw [accepted]
    refine ⟨history, reachable, rfl, ?_⟩
    intro context made
    cases made
  | ok conversions =>
    have made : (history.next (.setUp settings conversions name purpose)).Reachable :=
      reachable.next trivial
    by_cases taken : name ∈ history.importer.interpreters
    · rw [construct_of_taken taken accepted]
      refine ⟨_, made, History.importer_next _ _, ?_⟩
      intro context refused
      cases refused
    · have known : (history.next (.setUp settings conversions name purpose)).Knows
          ⟨name, history.importer.fresh⟩ := by
        refine ⟨{ name, purpose, conversions }, ?_, rfl⟩
        rw [History.next, Operation.record, setUp_of_new taken]
        exact Function.update_self _ _ _
      obtain ⟨later, reached, same, run⟩ :=
        made.runCommonScript known source (settings.text .commonScript)
      rw [construct_of_new taken accepted]
      refine ⟨later, reached, run, ?_⟩
      intro context given
      obtain rfl := Except.ok.inj given
      obtain ⟨account, kept, named⟩ := known
      exact ⟨account, same ▸ kept, named⟩

end MediaImport.Importer
