import MediaImport.Proofs.Exchange.DescribedObject
import MediaImport.Proofs.Importer.Additions
import MediaImport.Proofs.Text.LeadingInteger

/-!
# Track numbers of imported objects

A track number lives in two places: in an item itself, and as a text among its metadata.
In an import context both are made from the one text that a table gives, so they agree:
there is an entry exactly if the number is positive, and the number is the integer at the
front of it.  Neither is ever taken from the previous object, although most of what a
table leaves out is.

`HasTrackOf` says this of one object.  It holds of whatever is read from a table, of what
comes back from processing an object, and of what a script adds to the catalogue.
-/

namespace MediaImport

open Exchange Media Script Text.Integer

/-- The track number among the metadata. -/
def Media.Object.numberText? (object : Object) : Option String :=
  object.metadata[MetadataKey.trackNumber]?

namespace Exchange.Reader

/-- An object has the track number that a table gives, whatever object came before. -/
structure HasTrackOf (view : Nat → String → Value) (table : Nat) (object : Object) : Prop where
  /-- The entry is the text in the table, if a positive integer stands at its front. -/
  told : ∀ text, object.numberText? = some text ↔
    text = Utf8.lossy (metadataBytes view table MetadataKey.trackNumber) ∧
      ∃ spelled, Leads text.toList spelled ∧ 0 < spelled
  entry_iff : ∀ contents, object.kind = .item contents →
    (object.numberText? ≠ none ↔ 0 < contents.trackNumber)
  /-- The number of an item is the integer at the front of its entry, clamped to 32 bits. -/
  number : ∀ contents, object.kind = .item contents → ∀ text, object.numberText? = some text →
    ∃ spelled, Leads text.toList spelled ∧ contents.trackNumber.toInt = clamp32 spelled
  absent : ∀ contents, object.kind = .item contents → object.numberText? = none →
    contents.trackNumber = 0

/-! ## What a table describes -/

variable (reader : Reader) (view : Nat → String → Value) (table : Nat) (previous : Option Object)

/-- The entry for a text: the text itself, if a positive integer stands at its front. -/
theorem entryText_trackNumber_eq_some_iff (contents : Bytes) (text : String) :
    reader.entryText MetadataKey.trackNumber contents = some text ↔
      text = Utf8.lossy contents ∧ ∃ spelled, Leads text.toList spelled ∧ 0 < spelled := by
  have given : reader.entryText MetadataKey.trackNumber contents =
      if 0 < (leading? (Utf8.lossy contents)).getD 0 then some (Utf8.lossy contents) else none := by
    cases contents with
    | nil =>
      have none : leading? (Utf8.lossy []) = none := by decide +kernel
      rw [none]
      rfl
    | cons first rest => rw [entryText, if_neg (by simp), if_pos rfl]
  rw [given]
  constructor
  · intro found
    split at found
    · next positive =>
      obtain rfl := Option.some.inj found
      exact ⟨rfl, (leading?_pos_iff _).mp positive⟩
    · cases found
  · rintro ⟨rfl, found⟩
    rw [if_pos ((leading?_pos_iff _).mpr found)]

theorem getElem?_commonObject_trackNumber (created : Object) :
    (reader.commonObject view table previous created).metadata[MetadataKey.trackNumber]? =
      reader.entryText MetadataKey.trackNumber
        (metadataBytes view table MetadataKey.trackNumber) := by
  have recognised : MetadataKey.isRecognised MetadataKey.trackNumber = true := by decide
  change (reader.metadataWith _ _ _)[_]? = _
  rw [getElem?_metadataWith_all, if_pos recognised]

/-- The entry comes from the table alone. -/
theorem numberText?_describedAs (created : Kind) :
    (reader.describedAs view table previous created).numberText? =
      reader.entryText MetadataKey.trackNumber
        (metadataBytes view table MetadataKey.trackNumber) := by
  have notDescription : MetadataKey.trackNumber ≠ MetadataKey.description := by decide
  cases created with
  | container contents =>
    exact reader.getElem?_commonObject_trackNumber view table previous
      (.ofKind (.container contents))
  | item contents =>
    rw [Object.numberText?, describedAs, itemObject_eq]
    change (withDescription _ previous _)[_]? = _
    rw [getElem?_withDescription, if_neg notDescription, getElem?_commonObject_trackNumber]

/-- In an import context an item is numbered by its entry. -/
theorem trackNumber_describedAs (layout : reader.purpose = .layout) {created : Kind}
    {contents : Item}
    (isItem : (reader.describedAs view table previous created).kind = .item contents) :
    contents.trackNumber =
      ((reader.describedAs view table previous created).numberText?.bind leading?).getD 0 := by
  rw [numberText?_describedAs]
  cases created with
  | container made => cases isItem
  | item made =>
    rw [describedAs, itemObject_eq] at isItem
    obtain rfl := Kind.item.inj isItem
    change reader.trackNumberOf view table _ = _
    rw [trackNumberOf, layout]
    change trackNumber _ = _
    rw [trackNumber, getElem?_commonObject_trackNumber]

theorem hasTrackOf_of_under (layout : reader.purpose = .layout) {object : Object}
    (came : (reader.object previous (some table)).under view = .ok (some object)) :
    HasTrackOf view table object := by
  rw [under_object] at came
  obtain ⟨created, -, -, rfl⟩ := reader.outcome_eq_ok view table came
  have numbered : ∀ contents, (reader.describedAs view table previous created).kind =
      .item contents → contents.trackNumber =
        ((reader.describedAs view table previous created).numberText?.bind leading?).getD 0 :=
    fun _ isItem => reader.trackNumber_describedAs view table previous layout isItem
  have told : ∀ text, (reader.describedAs view table previous created).numberText? = some text ↔
      text = Utf8.lossy (metadataBytes view table MetadataKey.trackNumber) ∧
        ∃ spelled, Leads text.toList spelled ∧ 0 < spelled := by
    intro text
    rw [numberText?_describedAs, entryText_trackNumber_eq_some_iff]
  generalize reader.describedAs view table previous created = object at numbered told ⊢
  constructor
  case told => exact told
  case entry_iff =>
    intro contents isItem
    rw [numbered contents isItem]
    cases entry : object.numberText? with
    | none => simp
    | some text => simpa using (leading?_pos_iff text).mpr ((told text).mp entry).2
  case number =>
    intro contents isItem text entry
    obtain ⟨-, spelled, leads, -⟩ := (told text).mp entry
    have read := leading?_eq_some_iff.mpr ⟨spelled, leads, toInt_ofInt_clamp32 spelled⟩
    refine ⟨spelled, leads, ?_⟩
    rw [numbered contents isItem, entry, Option.bind_some, read]
    exact toInt_ofInt_clamp32 spelled
  case absent =>
    intro contents isItem entry
    rw [numbered contents isItem, entry]
    rfl

/-! ## Reading -/

variable {reader table previous} {σ : Type} {host : Host σ} (layout : reader.purpose = .layout)
include layout

/-- An object that the application reads between two runs of scripts. -/
theorem hasTrackOf_of_read {interpreter : Interpreter} {state : σ} {object : Object}
    (came : (interpreter.read host state (reader.object previous (some table))).1 =
      .ok (some object)) :
    ∃ view,
      Interpreter.Answered host view (reader.object previous (some table)) interpreter state ∧
        HasTrackOf view table object := by
  obtain ⟨view, answered⟩ := (Interpreter.quiet_of_read came).exists_answered
  refine ⟨view, answered, reader.hasTrackOf_of_under view table previous layout ?_⟩
  rw [← Interpreter.read_of_answered answered, came]

/-- An object that a running script has called for. -/
theorem hasTrackOf_of_follows {config : Config σ} {steps : Nat} {object : Object}
    (follows : Config.Follows host (reader.object previous (some table)) config steps
      (.done (some object))) :
    ∃ view, Config.FollowsIn host view (reader.object previous (some table)) config steps
        (.done (some object)) ∧ HasTrackOf view table object := by
  obtain ⟨view, inView⟩ := follows.exists_inView
  exact ⟨view, inView, reader.hasTrackOf_of_under view table previous layout inView.under⟩

omit layout in
/-- What is no table describes no object. -/
theorem object_none : reader.object previous none = .done none := rfl

end Exchange.Reader

namespace Importer

/-! ## What comes back from processing an object -/

/-- Work in two parts comes to something only if its second part does. -/
theorem Course.perform_andThen_eq_ok {α β : Type} {first : Course (Except Failure α)}
    {rest : α → Course (Except Failure β)} {start : Interpreter} {initial : Desk} {value : β}
    (came : ((first.andThen rest).perform start initial).1 = .ok value) :
    ∃ middle interpreter desk, ((rest middle).perform interpreter desk).1 = .ok value := by
  rw [andThen, perform_bind] at came
  generalize first.perform start initial = performed at came
  obtain ⟨result, interpreter, desk⟩ := performed
  cases result with
  | ok middle => exact ⟨middle, interpreter, desk, came⟩
  | error failure => cases came

theorem reader_noteProcessed (importer : Importer) (context : Context) (object : Object) :
    ((importer.noteProcessed context object).environmentOf context).reader =
      (importer.environmentOf context).reader := by
  rw [environmentOf, noteProcessed, Std.ExtTreeMap.getElem?_insert_self]
  rfl

theorem fst_locked {α : Type} (importer : Importer) (body : Importer → α × Importer) :
    (importer.locked body).1 = (body { importer with lock := importer.lock.acquire }).1 := rfl

theorem fst_workOn_of_found {α : Type} {importer : Importer} {name : String} {slot : Slot}
    (found : importer.interpreters[name]? = some slot) (course : Course (Except Failure α)) :
    (importer.workOn name course.work).1 =
      (course.perform slot.interpreter (importer.deskOf slot)).1 := by
  rw [workOn_of_found found]

/-- An object that came back was read from a table, over the one that was processed. -/
theorem read_of_process {importer : Importer} {context : Context} {object back : Object}
    (came : (importer.process context object).1 = .ok (some back)) :
    ∃ (interpreter : Interpreter) (desk : Desk) (table : Nat),
      (interpreter.read host desk
        ((importer.environmentOf context).reader.object (some object) (some table))).1 =
          .ok (some back) := by
  rw [process, fst_locked] at came
  cases found : importer.interpreters[context.name]? with
  | none =>
    simp only [slot, found] at came
    cases came
  | some slot =>
    have noted : ({ importer with lock := importer.lock.acquire }.noteProcessed context
        object).interpreters[context.name]? = some slot := found
    simp only [Importer.slot, found] at came
    rw [← Course.work_processing, fst_workOn_of_found noted, reader_noteProcessed] at came
    obtain ⟨shown, _, _, came⟩ := Course.perform_andThen_eq_ok came
    obtain ⟨_, _, _, came⟩ := Course.perform_andThen_eq_ok came
    obtain ⟨_, _, _, came⟩ := Course.perform_andThen_eq_ok came
    obtain ⟨_, _, _, came⟩ := Course.perform_andThen_eq_ok came
    obtain ⟨result, interpreter, desk, came⟩ := Course.perform_andThen_eq_ok came
    rw [Course.perform_read] at came
    cases given : result.propertyTable? with
    | none =>
      rw [given, Reader.object_none] at came
      cases came
    | some table => exact ⟨interpreter, desk, table, given ▸ came⟩

/-! ## What scripts add -/

/-- An object that a script adds was read from the table that it called with. -/
theorem Adds.hasTrackOf {call : Config Desk} {surroundings : Surroundings}
    {arguments : List Value} {read : Nat} {object : Object} {chain : String}
    {upnpClass : Option String} (layout : surroundings.purpose = .layout)
    (adds : Adds call surroundings arguments read object chain upnpClass) :
    ∃ view table, (Value.first arguments).propertyTable? = some table ∧
      Config.FollowsIn host view (readingOf surroundings arguments) (call.after host 1) read
        (.done (some object)) ∧
      Reader.HasTrackOf view table object := by
  have reads := adds.reads
  unfold readingOf at reads ⊢
  cases given : (Value.first arguments).propertyTable? with
  | none =>
    rw [given, Reader.object_none] at reads
    cases reads
  | some table =>
    rw [given] at reads
    obtain ⟨view, follows, has⟩ := Reader.hasTrackOf_of_follows layout reads
    exact ⟨view, table, rfl, follows, has⟩

/-- Wherever an object is read from a table in an import context, its track number and the
entry for it agree, and the table alone decides what they are.  This holds of what the
application reads, of what a running script reads, of what comes back from processing an
object, and of what a script adds. -/
theorem hasTrackOf_imported (conversions : Conversions) (previous : Option Object)
    (table : Nat) {σ : Type} (host : Host σ) :
    let reading := (Reader.ofConversions .layout conversions).object previous (some table)
    (∀ interpreter state object, (interpreter.read host state reading).1 = .ok (some object) →
      ∃ view, Interpreter.Answered host view reading interpreter state ∧
        Reader.HasTrackOf view table object) ∧
    (∀ config steps object, Config.Follows host reading config steps (.done (some object)) →
      ∃ view, Config.FollowsIn host view reading config steps (.done (some object)) ∧
        Reader.HasTrackOf view table object) ∧
    (∀ (importer : Importer) context object back,
      (importer.environmentOf context).purpose = .layout →
      (importer.process context object).1 = .ok (some back) →
      ∃ interpreter desk view table,
        Interpreter.Answered Importer.host view
          ((importer.environmentOf context).reader.object (some object) (some table))
          interpreter desk ∧
        Reader.HasTrackOf view table back) ∧
    ∀ call surroundings arguments steps, surroundings.purpose = .layout →
      Begins call arguments → call.state.Surrounds surroundings →
      call.OverAfter Importer.host steps →
      call.Fails Importer.host steps ∨ ∃ view table read object entry,
        (Value.first arguments).propertyTable? = some table ∧
        Config.FollowsIn Importer.host view (readingOf surroundings arguments)
          (call.after Importer.host 1) read (.done (some object)) ∧
        (call.after Importer.host steps).state.catalogue.entries =
          (call.after Importer.host (1 + read)).state.catalogue.entries ++ [entry] ∧
        Reader.HasTrackOf view table entry.object := by
  intro reading
  refine ⟨?_, ?_, ?_, ?_⟩
  · intro interpreter state object came
    exact Reader.hasTrackOf_of_read rfl came
  · intro config steps object follows
    exact Reader.hasTrackOf_of_follows rfl follows
  · intro importer context object back layout came
    obtain ⟨interpreter, desk, table, came⟩ := read_of_process came
    obtain ⟨view, answered, has⟩ := Reader.hasTrackOf_of_read layout came
    exact ⟨interpreter, desk, view, table, answered, has⟩
  · intro call surroundings arguments steps layout begins surrounds isOver
    rcases addObject_work begins surrounds isOver with
      fails | ⟨read, object, chain, upnpClass, rfl, adds⟩
    · exact .inl fails
    · obtain ⟨view, table, given, follows, has⟩ := adds.hasTrackOf layout
      have entries := congrArg (fun desk : Desk => desk.catalogue.entries) adds.appends
      exact .inr ⟨view, table, read, object, _, given, follows, entries,
        has.told, has.entry_iff, has.number, has.absent⟩

/-! An item with a track number of its own, whose table is given another one. -/

/-- The ninth track of some album. -/
def ninthTrack : Object where
  metadata := (∅ : TextMap).insert MetadataKey.trackNumber "9"
  kind := .item { trackNumber := 9 }

/-- The same item, when its table says that it is the fifth track of twelve. -/
def fifthTrack : Object where
  isVirtual := true
  metadata := (∅ : TextMap).insert MetadataKey.trackNumber " +5/12"
  kind := .item { trackNumber := 5 }

/-- A script that says so. -/
def renumbering : ScriptSource :=
  fun _ => .ok (Bytes.ofString "orig.meta['upnp:originalTrackNumber'] = ' +5/12'")

/-- A context that has loaded the script. -/
def renumbered : Importer :=
  ((({} : Importer).construct renumbering noSettings "import" .layout).2.load renumbering
    ⟨"import", 0⟩ "s.lua").2

/-- A heap with a table that says so. -/
def fifthTrackTable : Heap :=
  let (heap, metadata) := ({} : Heap).newTable
    (.ofEntries (Table.stringEntries [(MetadataKey.trackNumber, .ofString " +5/12")]))
  (heap.newTable (.ofEntries (Table.stringEntries
    [("objectType", .int 2), ("meta", .table metadata)]))).1

theorem isPlain_fifthTrackTable : IsPlain fifthTrackTable 1 :=
  isPlain_of_isBare (.newTable (.newTable Heap.isBare_empty _) _) 1

theorem outcome_fifthTrackTable :
    Reader.internal.outcome fifthTrackTable.property 1 (some ninthTrack) =
      .ok (some fifthTrack) := by
  decide +kernel

set_option maxRecDepth 100000 in
theorem process_renumbered :
    (renumbered.process ⟨"import", 0⟩ ninthTrack).1 = .ok (some fifthTrack) := by
  decide +kernel

/-- The desk of a context that processes the ninth track. -/
def ninthTrackDesk : Desk where
  environment := {
    purpose := .layout
    conversions := utf8Conversions
    processed := some ninthTrack }
  catalogue := {}

/-- The ninth track becomes the fifth, read by the application or by a running script, or
processed as a whole; and a script that adds the ninth track as it is shown adds an entry
with the same track number in both places. -/
theorem hasTrackOf_fifthTrack :
    let reading := (Reader.ofConversions .layout utf8Conversions).object (some ninthTrack) (some 1)
    (∃ view, Interpreter.Answered host view reading { heap := fifthTrackTable } ninthTrackDesk ∧
      Reader.HasTrackOf view 1 fifthTrack) ∧
    (∃ (config : Config Desk) (steps : Nat) (view : Nat → String → Value),
      config.heap = fifthTrackTable ∧
      Config.FollowsIn host view reading config steps (.done (some fifthTrack)) ∧
      Reader.HasTrackOf view 1 fifthTrack) ∧
    ((renumbered.process ⟨"import", 0⟩ ninthTrack).1 = .ok (some fifthTrack) ∧
      ∃ view table, Reader.HasTrackOf view table fifthTrack) ∧
    ∃ (call : Config Desk) (arguments : List Value) (steps : Nat) (entries : List CatalogueEntry)
      (entry : CatalogueEntry), Begins call arguments ∧ call.OverAfter host steps ∧
      (call.after host steps).state.catalogue.entries = entries ++ [entry] ∧
      ∃ view table, Reader.HasTrackOf view table entry.object := by
  intro reading
  obtain ⟨outside, inside, processed, added⟩ :=
    hasTrackOf_imported utf8Conversions (some ninthTrack) 1 host
  have came : reading.under fifthTrackTable.property = .ok (some fifthTrack) :=
    (Reader.under_object _ _ _ _).trans outcome_fifthTrackTable
  have asks : reading.Asks _ _ _ :=
    Reader.internal.asks_of_isPlain (some ninthTrack) isPlain_fifthTrackTable
  refine ⟨?_, ?_, ?_, ?_⟩
  · have read := Interpreter.read_of_plain host { heap := fifthTrackTable } ninthTrackDesk reading
      Reader.askedNames asks
    exact outside _ _ _ ((congrArg Prod.fst read).trans came)
  · obtain ⟨config, steps, sameHeap, inView⟩ := Config.exists_followsIn_of_plain _ ninthTrackDesk
      reading Reader.askedNames asks came
    obtain ⟨view, inView, has⟩ := inside config steps fifthTrack inView.follows
    exact ⟨config, steps, view, sameHeap, inView, has⟩
  · have layout : (renumbered.environmentOf ⟨"import", 0⟩).purpose = .layout := by decide +kernel
    obtain ⟨_, _, view, table, -, has⟩ := processed _ _ _ _ layout process_renumbered
    exact ⟨process_renumbered, view, table, has⟩
  · have surrounds : ninthTrackDesk.Surrounds ⟨.layout, utf8Conversions, some ninthTrack⟩ := rfl
    have begins := shownStart_begins { heap := {} } ninthTrackDesk ninthTrack "/Music"
    have surroundsCall : ((shownStart { heap := {} } ninthTrackDesk ninthTrack "/Music").step
        host).state.Surrounds ⟨.layout, utf8Conversions, some ninthTrack⟩ := by
      rw [shownStart_step]
      exact surrounds
    obtain ⟨read, isOver, adds⟩ :=
      addingShown_succeeds { heap := {} } ninthTrack surrounds (show "/Music" ≠ "" by decide)
    rcases added _ _ _ _ rfl begins surroundsCall isOver with
      ⟨⟨error, stopped⟩, -⟩ | ⟨view, table, read, object, entry, -, -, entries, has⟩
    · rw [adds.answers] at stopped
      cases stopped
    · exact ⟨_, _, _, _, entry, begins, isOver, entries, view, table, has⟩

end Importer

end MediaImport
