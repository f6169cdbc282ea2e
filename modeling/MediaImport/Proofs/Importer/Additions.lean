import MediaImport.Proofs.Importer.AddingCall
import MediaImport.Proofs.Importer.History

/-!
# What scripts add to the catalogue

A script may call the function that adds objects at any time: when it is loaded as the
common script, when it is executed, when an object is processed, or when the application
calls into the interpreter.  Wherever in a history a call stands, it takes what its table
leaves out from the object that was handed to its context last, and refers the new entry
to that object.  It does not matter how the processing of that object ended.

A call that succeeds adds one entry, whose number the script gets.  A call that fails
adds nothing and uses no number.
-/

namespace MediaImport.Importer

open MediaImport.Exchange MediaImport.Media MediaImport.Script

/-- A call that adds an object, anywhere in a history: it fails, and has changed nothing by
itself, or it adds what its table describes over the object that was handed last to the
context that it belongs to.  If there are no metatables, nothing else changes meanwhile. -/
theorem addObject_over_history {history : History} (reachable : history.Reachable)
    {operation : Operation} (genuine : operation.IsGenuine history) {number : Nat}
    {call : Config Desk} (visits : operation.Visits history.importer number call)
    {arguments : List Value} (begins : Begins call arguments) {steps : Nat}
    (isOver : call.OverAfter host steps) :
    ∃ account, (history.next operation).accounts number = some account ∧
      call.state.Surrounds account.surroundings ∧
      (call.Fails host steps ∨ ∃ read object chain upnpClass, steps = 1 + read + 1 ∧
        Adds call account.surroundings arguments read object chain upnpClass) ∧
      (TableIsPlain call arguments →
        (call.Fails host steps ∧ (call.after host steps).state = call.state) ∨
        ∃ read object chain upnpClass, steps = 1 + read + 1 ∧
          Adds call account.surroundings arguments read object chain upnpClass ∧
          (readingOf account.surroundings arguments).under call.heap.property =
            .ok (some object) ∧
          (call.after host (1 + read)).state = call.state) := by
  obtain ⟨account, known, surrounds⟩ := reachable.surrounds genuine visits
  refine ⟨account, known, surrounds, addObject_work begins surrounds isOver, ?_⟩
  intro plain
  exact addObject_work_of_plain begins surrounds isOver plain

/-! ## An object that is added as it is shown -/

/-- Show an object to an interpreter, and add the table that shows it. -/
def addingShown (object : Object) (chain : String) : Course (Except Failure (List Value)) :=
  (Course.display object).andThen fun shown =>
    Course.call (.native (.host .addObject)) [shown, .ofString chain]

section Shown

variable (interpreter : Interpreter) (desk : Desk) (object : Object) (chain : String)

/-- The arguments of the call: the table that shows the object, and a chain. -/
def shownArguments : List Value :=
  [.table ((ObjectTable.ofObject object).allocate interpreter.heap).2, .ofString chain]

/-- The configuration in which the call is about to begin. -/
def shownStart : Config Desk :=
  Interpreter.start
    { interpreter with heap := ((ObjectTable.ofObject object).allocate interpreter.heap).1 } desk
    (.call none (.native (.host .addObject)) (shownArguments interpreter object chain)
      fun values => .done (.result values))

theorem shownStart_step :
    (shownStart interpreter desk object chain).step host =
      { (shownStart interpreter desk object chain).push
          (.call none fun values => .done (.result values)) with
        focus := Signal.result <$> addObject (shownArguments interpreter object chain) } :=
  begins_of_call ⟨show 0 < 199990 by decide, show 0 < 196 by decide⟩ rfl

theorem shownStart_begins :
    Begins ((shownStart interpreter desk object chain).step host)
      (shownArguments interpreter object chain) :=
  congrArg Config.focus (shownStart_step interpreter desk object chain)

theorem shownStart_room : ((shownStart interpreter desk object chain).step host).HasRoom := by
  rw [shownStart_step]
  exact ⟨show 1 < 199990 by decide, show 1 < 196 by decide⟩

theorem addingShown_visits :
    (addingShown object chain).Visits ((shownStart interpreter desk object chain).step host)
      interpreter desk :=
  .inl ⟨1, rfl⟩

theorem shownArguments_texts (present : chain ≠ "") :
    Texts (shownArguments interpreter object chain) chain none :=
  ⟨.text rfl, present, none, .nothing, rfl⟩

theorem shownStart_plain :
    TableIsPlain ((shownStart interpreter desk object chain).step host)
      (shownArguments interpreter object chain) := by
  rw [shownStart_step]
  rintro table ⟨rfl⟩
  exact isPlain_allocate (ObjectTable.ofObject object) interpreter.heap

theorem shownStart_described (conversions : Conversions) :
    (readingOf ⟨.layout, conversions, some object⟩
        (shownArguments interpreter object chain)).under
      ((shownStart interpreter desk object chain).step host).heap.property =
        .ok (some object.handedBack) := by
  rw [shownStart_step]
  exact Reader.under_untouched_over_object conversions object interpreter.heap

variable {desk chain}

/-- A context that adds the table that shows the object it was handed last succeeds. -/
theorem addingShown_succeeds {conversions : Conversions}
    (surrounds : desk.Surrounds ⟨.layout, conversions, some object⟩) (present : chain ≠ "") :
    ∃ read, ((shownStart interpreter desk object chain).step host).OverAfter host (1 + read + 1) ∧
      Adds ((shownStart interpreter desk object chain).step host)
        ⟨.layout, conversions, some object⟩ (shownArguments interpreter object chain) read
        object.handedBack chain none := by
  refine addObject_succeeds_of_plain (shownStart_begins interpreter desk object chain) ?_
    (shownStart_plain interpreter desk object chain)
    (shownStart_room interpreter desk object chain)
    (shownArguments_texts interpreter object chain present)
    (shownStart_described interpreter desk object chain conversions)
  rw [shownStart_step]
  exact surrounds

end Shown

/-- Settings that name nothing. -/
def noSettings : Settings :=
  .ofTexts fun _ => ""

def utf8Conversions : Conversions :=
  ⟨.utf8, .utf8, .utf8, .utf8⟩

/-- A plain item. -/
def song : Object where
  id := 12
  title := "Song"
  kind := .item {}

/-- A context is made. -/
def madeHistory : History :=
  ({} : History).next (.setUp noSettings utf8Conversions "import" .layout)

/-- It processes an item, which fails because it has no program. -/
def songHistory : History :=
  madeHistory.next (.process ⟨"import", 0⟩ song)

theorem new_of_empty : "import" ∉ ({} : Importer).interpreters :=
  Std.ExtTreeMap.not_mem_empty

theorem accounts_madeHistory :
    madeHistory.accounts 0 = some ⟨"import", .layout, utf8Conversions, none⟩ := by
  simp [madeHistory, History.next, Operation.record, setUp_of_new new_of_empty]

theorem accounts_songHistory :
    songHistory.accounts 0 = some ⟨"import", .layout, utf8Conversions, some song⟩ := by
  change madeHistory.accounts.hand 0 song 0 = _
  rw [Accounts.hand, Function.update_self, accounts_madeHistory]
  rfl

theorem knows_madeHistory : madeHistory.Knows ⟨"import", 0⟩ :=
  ⟨_, accounts_madeHistory, rfl⟩

theorem knows_songHistory : songHistory.Knows ⟨"import", 0⟩ :=
  ⟨_, accounts_songHistory, rfl⟩

theorem reachable_songHistory : songHistory.Reachable := by
  have made : madeHistory.Reachable := .next .start trivial
  exact made.next knows_madeHistory

theorem slot_songHistory :
    ∃ slot, songHistory.importer.interpreters["import"]? = some slot ∧
      slot.environment = some 0 := by
  have made : madeHistory.importer.interpreters["import"]? =
      some ⟨prepared noSettings, some 0⟩ := by
    rw [madeHistory, History.importer_next, Operation.apply,
      locked_settingUp_of_new new_of_empty]
    exact Std.ExtTreeMap.getElem?_insert_self
  obtain ⟨interpreter, kept⟩ := process_keeps ⟨"import", 0⟩ made song
  refine ⟨⟨interpreter, some 0⟩, ?_, rfl⟩
  rw [songHistory, History.importer_next, Operation.apply]
  exact kept

/-- The item that failed to be processed is added with the table that shows it: the entry is
what comes back of the item, and refers to it. -/
theorem addObject_over_songHistory :
    ∃ (call : Config Desk) (arguments : List Value) (read : Nat),
      (Operation.use ⟨"import", 0⟩ (addingShown song "/Music")).Visits songHistory.importer 0
        call ∧
      Begins call arguments ∧ call.OverAfter host (1 + read + 1) ∧
      Adds call ⟨.layout, utf8Conversions, some song⟩ arguments read song.handedBack "/Music"
        none := by
  obtain ⟨slot, found, belongs⟩ := slot_songHistory
  have visits : (Operation.use ⟨"import", 0⟩ (addingShown song "/Music")).Visits
      songHistory.importer 0
      ((shownStart slot.interpreter (songHistory.importer.deskOf slot) song "/Music").step host) :=
    ⟨slot, found, belongs, addingShown_visits _ _ _ _⟩
  have genuine : (Operation.use ⟨"import", 0⟩ (addingShown song "/Music")).IsGenuine
      songHistory := knows_songHistory
  have plain := shownStart_plain slot.interpreter (songHistory.importer.deskOf slot) song "/Music"
  have begins := shownStart_begins slot.interpreter (songHistory.importer.deskOf slot) song "/Music"
  obtain ⟨account, known, -, surrounds⟩ := reachable_songHistory.agrees.deskOf found belongs
  obtain rfl := Option.some.inj (accounts_songHistory.symm.trans known)
  obtain ⟨read, isOver, adds⟩ :=
    addingShown_succeeds slot.interpreter song surrounds (show "/Music" ≠ "" by decide)
  obtain ⟨later, kept, -, -, outcome⟩ :=
    addObject_over_history reachable_songHistory genuine visits begins isOver
  simp only [History.next, Operation.record] at kept
  obtain rfl := Option.some.inj (accounts_songHistory.symm.trans kept)
  rcases outcome plain with
    ⟨⟨⟨error, stopped⟩, -⟩, -⟩ | ⟨again, object, chain, upnpClass, same, added, described, -⟩
  · rw [adds.answers] at stopped
    cases stopped
  · obtain rfl := Option.some.inj (Except.ok.inj (described.symm.trans
      (shownStart_described slot.interpreter _ song "/Music" utf8Conversions)))
    obtain ⟨rfl, rfl⟩ := added.texts.unique adds.texts
    exact ⟨_, _, again, visits, begins, same ▸ isOver, added⟩

end MediaImport.Importer
