import MediaImport.Proofs.Importer.AddingCall

/-!
# One call that copies an object

What a script's call of the function that copies an object does, from the moment the
function begins until the call is over.  The copy is read from the table that was given,
with no object before it, so the object that is being processed does not come into it.  What
was read is put into four new tables, and the script gets the outer one.

These are the last two steps of the call.  Whatever else happens to the heap happens while
the table is read, in metatables; if there are none, the new tables are all that changes, and
a call with room for its look-ups succeeds.
-/

namespace MediaImport.Importer

open MediaImport.Exchange MediaImport.Media MediaImport.Script

/-! ## The function as a piece of work -/

/-- What surrounds a script, the object that is processed left out. -/
def alone (surroundings : Surroundings) : Surroundings :=
  { surroundings with processed := none }

/-- What is done with the object that a table describes. -/
def showing : Option Object → Behaviour Signal
  | none => .fail (.script (runtimeError "copyObject: object has no objectType"))
  | some object =>
    (ObjectTable.ofObject object).behaviour.bind fun copied => .done (.result [copied])

/-- The function asks for what surrounds the script, reads the table, and shows what it
read. -/
theorem copyObject_eq (arguments : List Value) :
    Signal.result <$> copyObject arguments =
      .host .surroundings fun surroundings =>
        (readingOf (alone surroundings) arguments).behaviour.bind showing := by
  refine congrArg (Behaviour.host .surroundings) (funext fun surroundings => ?_)
  change Behaviour.bind (Behaviour.bind (Behaviour.bind (Reading.behaviour _) _) _) _ = _
  rw [Behaviour.bind_assoc, Behaviour.bind_assoc]
  refine congrArg (Behaviour.bind _) (funext fun described => ?_)
  cases described <;> rfl

variable {config call : Config Desk} {arguments : List Value} {surroundings : Surroundings}

/-- The tables of a copy are made in two steps, and nothing else is done. -/
theorem showing_ends {object : Object} (focus : config.focus = showing (some object)) :
    config.Busy host 2 ∧ config.Calm host 2 ∧ config.after host 2 = { config with
      focus := .done (.result
        [.table ((ObjectTable.ofObject object).allocate config.heap).2])
      heap := ((ObjectTable.ofObject object).allocate config.heap).1 } := by
  have looks : config.focus = .read fun heap =>
      .write (fun _ => ((ObjectTable.ofObject object).allocate heap).1) fun _ =>
        .done (.result [.table ((ObjectTable.ofObject object).allocate heap).2]) := focus
  have looked : config.after host 1 = { config with
      focus := .write (fun _ => ((ObjectTable.ofObject object).allocate config.heap).1) fun _ =>
        .done (.result [.table ((ObjectTable.ofObject object).allocate config.heap).2]) } := by
    change config.step host = _
    simp only [Config.step, looks]
  have written : (config.after host 1).after host 1 = { config with
      focus := .done (.result
        [.table ((ObjectTable.ofObject object).allocate config.heap).2])
      heap := ((ObjectTable.ofObject object).allocate config.heap).1 } := by
    rw [looked]
    rfl
  have first : config.Busy host 1 := .one (by rw [looks]; exact id)
  have second : (config.after host 1).Busy host 1 := .one (by rw [looked]; exact id)
  have level : (config.after host 1).frames = config.frames := by rw [looked]
  have kept : (config.after host 1).state = config.state := by rw [looked]
  have looking : config.Calm host 1 := .one level kept
  have writing : (config.after host 1).Calm host 1 :=
    .one ((congrArg Config.frames written).trans level.symm)
      ((congrArg Config.state written).trans kept.symm)
  exact ⟨first.trans level second, looking.trans writing, written⟩

/-- What is left when the table has been read. -/
theorem showing_work {described : Option Object} {steps : Nat}
    (isOver : config.OverAfter host steps) (focus : config.focus = showing described) :
    config.Fails host steps ∨ ∃ object, described = some object ∧ steps = 2 := by
  cases described with
  | none => exact .inl (Config.fails_of_fail isOver focus).1
  | some object =>
    obtain ⟨busy, -, last⟩ := showing_ends focus
    have within : 2 ≤ steps := by
      by_contra early
      exact busy steps (Nat.lt_of_not_le early) isOver.level isOver.ended
    have ended := (isOver.rest (by rw [last]) within).of_ended (by rw [last]; trivial)
    exact .inr ⟨object, rfl, Nat.le_antisymm (Nat.le_of_sub_eq_zero ended) within⟩

/-! ## The call -/

/-- The function that copies objects begins to work on some arguments. -/
def BeginsCopy (call : Config Desk) (arguments : List Value) : Prop :=
  call.focus = Signal.result <$> copyObject arguments

/-- A script that calls the function begins it, if there is room for the call. -/
theorem beginsCopy_of_call (room : config.HasRoom) {site : Option Site}
    {next : List Value → Behaviour Signal}
    (focus : config.focus = .call site (.native (.host .copyObject)) arguments next) :
    BeginsCopy (config.step host) arguments := by
  rw [Config.step_call_of_room host room focus]
  rfl

/-- A call copies an object: the first of its steps asks for the surroundings, then it reads
the table for so many steps, and its last two steps put what it read into new tables. -/
structure Copies (call : Config Desk) (surroundings : Surroundings) (arguments : List Value)
    (read : Nat) (object : Object) : Prop where
  reads : Config.Follows host (readingOf (alone surroundings) arguments) (call.after host 1) read
    (.done (some object))
  calm : call.Calm host (1 + read + 2)
  shows : call.after host (1 + read + 2) =
    let before := call.after host (1 + read)
    { before with
      focus := .done (.result [.table ((ObjectTable.ofObject object).allocate before.heap).2])
      heap := ((ObjectTable.ofObject object).allocate before.heap).1 }

/-- The first step of a call goes on to read the table, whatever object is processed. -/
theorem BeginsCopy.step (begins : BeginsCopy call arguments)
    (surrounds : call.state.Surrounds surroundings) :
    ¬Config.Ended call.focus ∧
      call.step host = { call with
        focus := (readingOf (alone surroundings) arguments).behaviour.bind showing } := by
  have asks := begins.trans (copyObject_eq arguments)
  obtain rfl := surrounds
  constructor
  · rw [asks]
    exact id
  · simp only [Config.step, asks]
    rfl

/-- A call that copies an object either fails or copies the object that its table
describes. -/
theorem copyObject_work {steps : Nat} (begins : BeginsCopy call arguments)
    (surrounds : call.state.Surrounds surroundings) (isOver : call.OverAfter host steps) :
    call.Fails host steps ∨ ∃ read object, steps = 1 + read + 2 ∧
      Copies call surroundings arguments read object := by
  obtain ⟨busy, stepped⟩ := begins.step surrounds
  obtain ⟨positive, calm, rest⟩ := isOver.step busy (by rw [stepped]) (by rw [stepped])
  rcases Config.reading_work _ _ rest (by rw [stepped]) with
    fails | ⟨read, within, described, reads, gets⟩
  · exact .inl (.after_calm positive calm fails)
  have reached : call.GetsTo host (1 + read) (showing described) := .after_calm calm gets
  have before : 1 + read ≤ steps := Nat.add_le_of_le_sub' positive within
  rcases showing_work (isOver.rest reached.calm.level before) reached.focus with
    fails | ⟨object, rfl, last⟩
  · exact .inl (.after_calm before reached.calm fails)
  obtain ⟨-, calm, shows⟩ := showing_ends reached.focus
  exact .inr ⟨read, object, (Nat.sub_eq_iff_eq_add' before).mp last, reads,
    reached.calm.trans calm, by rw [Config.after_add, shows]⟩

theorem Copies.answers {read : Nat} {object : Object}
    (copies : Copies call surroundings arguments read object) :
    (call.after host (1 + read + 2)).focus = .done (.result
      [.table ((ObjectTable.ofObject object).allocate (call.after host (1 + read)).heap).2]) := by
  rw [copies.shows]

theorem Copies.heap {read : Nat} {object : Object}
    (copies : Copies call surroundings arguments read object) :
    (call.after host (1 + read + 2)).heap =
      ((ObjectTable.ofObject object).allocate (call.after host (1 + read)).heap).1 := by
  rw [copies.shows]

/-- A call that copies something was given a table, and the tables answered like some view. -/
theorem Copies.exists_view {read : Nat} {object : Object}
    (copies : Copies call surroundings arguments read object) :
    ∃ source view, Value.first arguments = .table source ∧
      Config.FollowsIn host view (readingOf (alone surroundings) arguments) (call.after host 1) read
        (.done (some object)) ∧
      ((Reader.ofConversions surroundings.purpose surroundings.conversions).object none
        (some source)).under view = .ok (some object) := by
  have reads := copies.reads
  cases given : Value.first arguments with
  | table source =>
    have reading : readingOf (alone surroundings) arguments =
        (Reader.ofConversions surroundings.purpose surroundings.conversions).object none
          (some source) := by
      rw [readingOf, given]
      rfl
    rw [reading] at reads ⊢
    obtain ⟨view, inView⟩ := reads.exists_inView
    exact ⟨source, view, rfl, inView, inView.under⟩
  | _ =>
    rw [readingOf, given] at reads
    cases reads

/-- There was room for the first look-up. -/
theorem Copies.hasRoom {read : Nat} {object : Object} (begins : BeginsCopy call arguments)
    (surrounds : call.state.Surrounds surroundings)
    (copies : Copies call surroundings arguments read object) : call.HasRoom := by
  obtain ⟨-, stepped⟩ := begins.step surrounds
  have first : call.after host 1 = _ := stepped
  obtain ⟨source, view, given, inView, -⟩ := copies.exists_view
  obtain ⟨next, asks⟩ : ∃ next, readingOf (alone surroundings) arguments =
      .get source "objectType" next := by
    rw [readingOf, given]
    exact ⟨_, rfl⟩
  rw [asks] at inView
  cases inView with
  | answer asked answered seen rest =>
    have room := answered.back.hasRoom asked
    rw [first] at room
    exact ⟨room.depth, room.nesting⟩

/-- If there are no metatables, and there is room for the look-ups, a call with a table that
describes an object succeeds, and the new tables are all that it leaves behind. -/
theorem copyObject_succeeds_of_plain (begins : BeginsCopy call arguments)
    (surrounds : call.state.Surrounds surroundings) (plain : TableIsPlain call arguments)
    (room : call.HasRoom) {object : Object}
    (described : (readingOf (alone surroundings) arguments).under call.heap.property =
      .ok (some object)) :
    ∃ read, call.OverAfter host (1 + read + 2) ∧
      Copies call surroundings arguments read object ∧
      (call.after host (1 + read)).heap = call.heap := by
  obtain ⟨busy, stepped⟩ := begins.step surrounds
  have first : call.after host 1 = _ := stepped
  have asks : (readingOf (alone surroundings) arguments).Asks _ _ _ := asks_readingOf plain
  have sameHeap : (call.after host 1).heap = call.heap := by rw [first]
  have level : (call.after host 1).frames = call.frames := by rw [first]
  have roomLeft : (call.after host 1).HasRoom := by
    rw [first]
    exact ⟨room.depth, room.nesting⟩
  rw [← sameHeap] at asks
  obtain ⟨read, reading, reads, readAll⟩ := Config.reading_ends_of_plain _ _ _ roomLeft asks
    (by rw [first]) (sameHeap ▸ described)
  have reached := (Config.after_add host 1 read call).trans readAll
  obtain ⟨showing, calm, shows⟩ := showing_ends (congrArg Config.focus reached)
  have levelRead : (call.after host (1 + read)).frames = call.frames := by
    rw [reached]
    exact level
  have isOver : call.OverAfter host (1 + read + 2) := by
    constructor
    · rw [Config.after_add, shows, levelRead]
    · rw [Config.after_add, shows]
      trivial
    · exact ((Config.Busy.one busy).trans level reading).trans levelRead showing
  have unchanged : (call.after host (1 + read)).heap = call.heap := by
    rw [reached]
    exact sameHeap
  have ends : call.after host (1 + read + 2) = _ :=
    (Config.after_add host (1 + read) 2 call).trans shows
  refine ⟨read, isOver, ⟨reads, ?_, ends⟩, unchanged⟩
  rcases copyObject_work begins surrounds isOver with
    ⟨⟨error, stopped⟩, -⟩ | ⟨other, found, same, copies⟩
  · rw [ends] at stopped
    cases stopped
  · rw [same]
    exact copies.calm

/-! ## A call on its own -/

/-- A table is about to be copied, and nothing waits for it. -/
def copying (heap : Heap) (environment : Environment) (table : Nat) : Config Desk where
  focus := Signal.result <$> copyObject [.table table]
  heap
  threads := ∅
  state := ⟨environment, {}⟩

theorem copying_succeeds {heap : Heap} (environment : Environment) {table : Nat} {object : Object}
    (plain : IsPlain heap table)
    (described : (environment.reader.object none (some table)).under heap.property =
      .ok (some object)) :
    ∃ read, (copying heap environment table).OverAfter host (1 + read + 2) ∧
      Copies (copying heap environment table) environment.surroundings [.table table] read object ∧
      ((copying heap environment table).after host (1 + read)).heap = heap := by
  have begins : BeginsCopy (copying heap environment table) [.table table] := rfl
  have room : (copying heap environment table).HasRoom :=
    ⟨Nat.zero_lt_succ _, Nat.zero_lt_succ _⟩
  refine copyObject_succeeds_of_plain begins rfl ?_ room described
  rintro _ ⟨rfl⟩
  exact plain

end MediaImport.Importer
