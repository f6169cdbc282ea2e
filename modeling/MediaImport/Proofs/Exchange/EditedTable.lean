import MediaImport.Proofs.Exchange.DocumentedProperties

/-!
# One assignment to a table that shows an object

A script may assign to one place of the table that it was given, before the table is
read back.  `Edit` lists the places where this changes one field of the object that comes
back, and `Edit.applied` says which.

An edit that suits an object does so whatever else the table says: what is read under all
other names stays what it was.  Only the type of the contents of a link is read twice, as
it also stands in the resource that is made up for a link that has none.
-/

namespace MediaImport.Exchange

open MediaImport.Media MediaImport.Script

/-- An assignment to one place of a table that shows an object. -/
inductive Edit where
  | title (text : String)
  | upnpClass (text : String)
  /-- A location is a path and may be any bytes. -/
  | location (contents : Bytes)
  /-- An entry of the table of metadata; without a text it is set to nil. -/
  | metadata (key : String) (text : Option String)
  | mimeType (text : String)
  | serviceId (text : String)
  | action (text : String)
  | state (text : String)

/-- Metadata with a text under a key, or with nothing there. -/
def withEntry (metadata : TextMap) (key : String) : Option String → TextMap
  | some text => metadata.insert key text
  | none => metadata.erase key

theorem getElem?_withEntry (metadata : TextMap) (key : String) (text : Option String)
    (wanted : String) :
    (withEntry metadata key text)[wanted]? = if wanted = key then text else metadata[wanted]? := by
  cases text <;>
    by_cases same : wanted = key <;>
    simp [withEntry, Std.ExtTreeMap.getElem?_insert, Std.ExtTreeMap.getElem?_erase, same, Ne.symm]

namespace Edit

/-- The name under which something is assigned. -/
def name : Edit → String
  | title _ => "title"
  | upnpClass _ => "upnpclass"
  | location _ => "location"
  | metadata key _ => key
  | mimeType _ => "mimetype"
  | serviceId _ => "serviceID"
  | action _ => "action"
  | state _ => "state"

/-- The value that is assigned. -/
def value : Edit → Value
  | location contents => .str contents
  | metadata _ text => text.elim .nil Value.ofString
  | title text | upnpClass text | mimeType text | serviceId text | action text | state text =>
    .ofString text

/-- Whether the place is in the table of metadata. -/
def isEntry : Edit → Bool
  | metadata _ _ => true
  | _ => false

/-- The table that something is assigned in, as a script finds it. -/
def holder (edit : Edit) (site : Option Site) (table : Nat) : Behaviour Value :=
  if edit.isEntry then index site (.table table) (.ofString "meta") []
  else pure (.table table)

/-- The assignment as a script makes it. -/
def assignment (edit : Edit) (site : Option Site) (table : Nat) : Behaviour Unit := do
  let holder ← edit.holder site table
  store site holder (.ofString edit.name) edit.value []

/-- What an edit may be for an object: a text that is not empty, or nothing in the place
of a metadata entry, where the kind of the object has such a place.  A track number has
two places, and so has the description of an item that comes with one. -/
def Suits (object : Object) : Edit → Prop
  | title text => text ≠ ""
  | upnpClass text => text ≠ ""
  | location contents => contents ≠ []
  | metadata key text =>
    text ≠ some "" ∧ MetadataKey.isRecognised key = true ∧ key ≠ MetadataKey.trackNumber ∧
      (key = MetadataKey.description → object.item? ≠ none → object.metadata[key]? = none)
  | mimeType text => text ≠ "" ∧ object.item? ≠ none
  | serviceId text => text ≠ "" ∧ object.item? ≠ none
  | action text => text ≠ "" ∧ object.command? ≠ none
  | state text => text ≠ "" ∧ object.command? ≠ none

/-- What comes back after an edit, given what would come back without it. -/
def applied (object back : Object) : Edit → Object
  | title text => { back with title := text }
  | upnpClass text => { back with upnpClass := text }
  | location contents => { back with location := contents }
  | metadata key text => { back with metadata := withEntry back.metadata key text }
  | mimeType text =>
    let typed := back.mapItem fun contents => { contents with mimeType := text }
    if object.kind.isUrl && object.resources.isEmpty then
      { typed with
        resources := [{
          handler := 0
          attributes := (∅ : TextMap).insert "protocolInfo" ("http-get:*:" ++ text ++ ":*") }] }
    else typed
  | serviceId text => back.mapItem fun contents => { contents with serviceId := text }
  | action text => back.mapCommand fun command => { command with action := text }
  | state text => back.mapCommand fun command => { command with state := text }

end Edit

open Reader

/-! ## What is read in the other places -/

namespace Edit

/-- Another view of a table differs by an edit. -/
structure Edits (edit : Edit) (view edited : Nat → String → Value) (table : Nat) : Prop where
  property : ∀ name, edited table name =
    if edit.isEntry = false ∧ name = edit.name then edit.value else view table name
  entry : ∃ id, view table "meta" = .table id ∧ ∀ key, edited id key =
    if edit.isEntry = true ∧ key = edit.name then edit.value else view id key

namespace Edits

variable {edit : Edit} {view edited : Nat → String → Value} {table : Nat}
  (edits : edit.Edits view edited table)
include edits

theorem elsewhere {names : List String} (apart : edit.isEntry = false → edit.name ∉ names) :
    ∀ name ∈ names, edited table name = view table name := by
  intro name member
  rw [edits.property, if_neg]
  rintro ⟨outer, rfl⟩
  exact apart outer member

theorem own (outer : edit.isEntry = false) (name : String) :
    edited table name = if name = edit.name then edit.value else view table name := by
  simp only [edits.property, outer, true_and]

/-- The type of the object and the table of metadata are still there. -/
theorem kept : ∀ name ∈ ["objectType", "meta"], edited table name = view table name := by
  refine edits.elsewhere ?_
  cases edit with
  | metadata key text => nofun
  | _ => simp [name]

theorem metadataBytes (key : String) : metadataBytes edited table key =
    if edit.isEntry = true ∧ key = edit.name then edit.value.propertyBytes
    else Reader.metadataBytes view table key := by
  obtain ⟨id, nested, entries⟩ := edits.entry
  unfold Reader.metadataBytes
  rw [edits.kept "meta" (by decide), nested]
  simp only [Value.propertyTable?, entries, apply_ite Value.propertyBytes]

theorem kindAlike (apart : edit.isEntry = false → edit.name ∉ itemNames ++ containerNames)
    (purpose : Purpose) (created : Kind) :
    KindAlike purpose created view table edited table :=
  kindAlike_of_agree fun name member =>
    edits.elsewhere apart name (kindNames_subset purpose created member)

theorem commonAlike (outer : edit.isEntry = false) (apart : edit.name ∉ sharedNames) :
    CommonAlike view table edited table := by
  refine commonAlike_of_agree (edits.elsewhere fun _ => apart) ?_
  intro id nested key _
  obtain ⟨own, named, entries⟩ := edits.entry
  obtain rfl : own = id := Value.table.inj (named.symm.trans nested)
  rw [entries, if_neg]
  rintro ⟨isEntry, -⟩
  rw [outer] at isEntry
  cases isEntry

theorem metadataBytes_eq (outer : edit.isEntry = false) :
    Reader.metadataBytes edited table = Reader.metadataBytes view table := by
  funext key
  rw [edits.metadataBytes, if_neg]
  simp [outer]

end Edits

end Edit

namespace Reader

theorem metadataWith_edited {entries edited : String → Bytes} {key : String}
    {text : Option String} (recognised : MetadataKey.isRecognised key = true)
    (other : key ≠ MetadataKey.trackNumber) (proper : text ≠ some "")
    (differ : ∀ wanted, edited wanted =
      if wanted = key then Bytes.ofString (text.getD "") else entries wanted) :
    internal.metadataWith edited MetadataKey.all ∅ =
      withEntry (internal.metadataWith entries MetadataKey.all ∅) key text := by
  apply Std.ExtTreeMap.ext_getElem?
  intro wanted
  rw [getElem?_withEntry, getElem?_metadataWith_all, getElem?_metadataWith_all, differ]
  by_cases same : wanted = key
  · subst same
    rw [if_pos recognised, if_pos rfl, if_pos rfl, entryText_ofString, if_neg other]
    cases text with
    | none => rfl
    | some text => simp [mt (congrArg some) proper]
  · rw [if_neg same, if_neg same]

theorem trackNumber_withEntry {metadata : TextMap} {key : String} {text : Option String}
    (other : key ≠ MetadataKey.trackNumber) :
    trackNumber (withEntry metadata key text) = trackNumber metadata := by
  rw [trackNumber, trackNumber, getElem?_withEntry, if_neg (Ne.symm other)]

/-- The description of the previous object comes after an edit of another place. -/
theorem withDescription_withEntry {object : Object} {metadata : TextMap} {key : String}
    {text : Option String}
    (apart : key = MetadataKey.description → object.metadata[key]? = none) :
    withDescription none (some object) (withEntry metadata key text) =
      withEntry (withDescription none (some object) metadata) key text := by
  apply Std.ExtTreeMap.ext_getElem?
  intro wanted
  simp only [getElem?_withDescription, getElem?_withEntry]
  by_cases same : key = MetadataKey.description
  · have none := apart same
    subst same
    by_cases own : wanted = MetadataKey.description <;> simp [own, none]
  · by_cases own : wanted = MetadataKey.description
    · simp [own, Ne.symm same]
    · simp [own]

variable {object : Object} {edit : Edit} {view edited : Nat → String → Value} {table : Nat}

theorem looseTextOf?_assigned {text : String} (present : text ≠ "") :
    looseTextOf? (Value.ofString text) = some text := by
  simp [looseTextOf?, Value.propertyText, present]

/-- An edit of what all kinds of object have, where it goes past what the kind adds. -/
theorem describedAs_of_common (edits : edit.Edits view edited table)
    (apart : edit.isEntry = false → edit.name ∉ itemNames ++ containerNames) {created : Kind}
    (common : internal.commonObject edited table (some object) (.ofKind created) =
      edit.applied object (internal.commonObject view table (some object) (.ofKind created)))
    (item : ∀ contents, created = .item contents → ∀ common,
      internal.itemObject view table (some object) contents.variant (edit.applied object common) =
        edit.applied object
          (internal.itemObject view table (some object) contents.variant common))
    (container : ∀ contents common,
      containerObject view table contents (edit.applied object common) =
        edit.applied object (containerObject view table contents common)) :
    internal.describedAs edited table (some object) created =
      edit.applied object (internal.describedAs view table (some object) created) := by
  have kind := edits.kindAlike apart .layout created
  cases created with
  | item contents =>
    change internal.itemObject edited table _ contents.variant _ = edit.applied object _
    rw [← internal.itemObject_congr kind, common, item contents rfl]
    rfl
  | container contents =>
    change containerObject edited table contents _ = edit.applied object _
    rw [← containerObject_congr kind, common, container]
    rfl

/-- An edit of what only items have. -/
theorem describedAs_of_item (edits : edit.Edits view edited table) (outer : edit.isEntry = false)
    (apart : edit.name ∉ sharedNames) {contents : Item}
    (item : ∀ common, common.resources = object.resources →
      internal.itemObject edited table (some object) contents.variant common =
        edit.applied object
          (internal.itemObject view table (some object) contents.variant common)) :
    internal.describedAs edited table (some object) (.item contents) =
      edit.applied object (internal.describedAs view table (some object) (.item contents)) := by
  change internal.itemObject edited table _ contents.variant _ = edit.applied object _
  rw [← internal.commonObject_congr (edits.commonAlike outer apart)]
  exact item _ rfl

/-- The resource that is made up for a link that names no protocol. -/
theorem linkOf_of_mimeType (noProtocol : view table "protocol" = .nil) {text : String}
    (present : text ≠ "") (contents : Item) (typed : contents.mimeType = text) :
    internal.linkOf view table contents = {
      handler := 0
      attributes := (∅ : TextMap).insert "protocolInfo" ("http-get:*:" ++ text ++ ":*") } := by
  rw [linkOf_eq, noProtocol, typed, if_neg present]
  rfl

/-- An edit of what items have changes their contents, and with the type of the contents the
resource that is made up for a link. -/
theorem itemObject_edited (edits : edit.Edits view edited table)
    (apart : edit.name ∉ ["description", "protocol"]) {variant : Variant} (change : Item → Item)
    (contents : ∀ metadata, internal.itemContents edited table (some object) variant metadata =
      change (internal.itemContents view table (some object) variant metadata))
    (common : Object) :
    internal.itemObject edited table (some object) variant common =
      let changed := (internal.itemObject view table (some object) variant common).mapItem change
      let contents := internal.itemContents view table (some object) variant common.metadata
      if variant.isUrl && common.resources.isEmpty then
        { changed with resources := [internal.linkOf view table (change contents)] }
      else changed := by
  have kept := edits.elsewhere fun _ => apart
  have link : ∀ contents, internal.linkOf edited table contents =
      internal.linkOf view table contents := by
    intro contents
    rw [linkOf, linkOf, kept "protocol" (by decide)]
  simp only [itemObject_eq, contents, link, kept "description" (by decide), Object.mapItem]
  split <;> rfl

/-- As long as the type of the contents stays, so does the resource. -/
theorem itemObject_edited_of_mimeType (edits : edit.Edits view edited table)
    (apart : edit.name ∉ ["description", "protocol"]) {variant : Variant} (change : Item → Item)
    (contents : ∀ metadata, internal.itemContents edited table (some object) variant metadata =
      change (internal.itemContents view table (some object) variant metadata))
    (typed : ∀ contents, (change contents).mimeType = contents.mimeType) (common : Object) :
    internal.itemObject edited table (some object) variant common =
      (internal.itemObject view table (some object) variant common).mapItem change := by
  rw [itemObject_edited edits apart change contents]
  simp only [itemObject_eq, linkOf, typed, Object.mapItem]
  split <;> rfl

theorem kind_of_item? (isItem : object.item? ≠ none) :
    ∃ contents, object.kind = .item contents := by
  cases kind : object.kind with
  | item contents => exact ⟨contents, rfl⟩
  | container contents => simp [Object.item?, kind, Kind.item?] at isItem

theorem kind_of_command? (isActive : object.command? ≠ none) :
    ∃ contents command, object.kind = .item contents ∧ contents.variant = .active command := by
  unfold Object.command? at isActive
  split at isActive
  · exact ⟨_, _, ‹_›, rfl⟩
  · exact absurd rfl isActive

theorem describedAs_edited (edits : edit.Edits view edited table)
    (suits : edit.Suits object) (undescribed : view table "description" = .nil)
    (noProtocol : view table "protocol" = .nil) :
    internal.describedAs edited table (some object) object.kind.emptied =
      edit.applied object (internal.describedAs view table (some object) object.kind.emptied) := by
  cases edit with
  | title text | upnpClass text | location contents =>
    refine describedAs_of_common edits (by simp [Edit.name, itemNames, containerNames]) ?_ ?_ ?_
    · simp only [Edit.Suits] at suits
      simp [commonObject, edits.own rfl, edits.metadataBytes_eq rfl, Edit.name, Edit.value,
        Edit.applied, suits]
    · simp [itemObject_eq, Edit.applied]
    · simp [containerObject, Edit.applied]
  | metadata key text =>
    obtain ⟨proper, recognised, other, apart⟩ := suits
    have differ : ∀ wanted, metadataBytes edited table wanted =
        if wanted = key then Bytes.ofString (text.getD "")
        else metadataBytes view table wanted := by
      intro wanted
      rw [edits.metadataBytes]
      cases text <;> simp [Edit.name, Edit.value, Edit.isEntry]
    have entries := metadataWith_edited recognised other proper differ
    refine describedAs_of_common edits (by simp [Edit.isEntry]) ?_ ?_ ?_
    · simp [commonObject, edits.property, entries, Edit.isEntry, Edit.applied]
    · intro contents isItem common
      have apart : key = MetadataKey.description → object.metadata[key]? = none := by
        intro same
        refine apart same ?_
        cases kind : object.kind with
        | container contents =>
          rw [kind] at isItem
          cases isItem
        | item contents => simp [Object.item?, kind, Kind.item?]
      have noText : internal.textOf? (Value.propertyBytes .nil) = none := rfl
      have number : ∀ metadata, internal.trackNumberOf view table metadata =
          trackNumber metadata :=
        fun _ => rfl
      simp only [itemObject_eq, Edit.applied, undescribed, noText,
        withDescription_withEntry apart, itemContents, number, trackNumber_withEntry other]
    · simp [containerObject, Edit.applied]
  | mimeType text =>
    obtain ⟨present, isItem⟩ := suits
    obtain ⟨contents, kind⟩ := kind_of_item? isItem
    have link := linkOf_of_mimeType noProtocol present
    rw [kind]
    refine describedAs_of_item edits rfl (by simp [Edit.name, sharedNames]) ?_
    intro common resources
    rw [itemObject_edited edits (by simp [Edit.name])
      fun contents => { contents with mimeType := text }]
    · simp [Edit.applied, link, resources, Kind.isUrl, kind]
    · intro metadata
      simp [itemContents, variantOf, trackNumberOf, edits.own rfl, Edit.name, Edit.value, present]
  | serviceId text =>
    obtain ⟨present, isItem⟩ := suits
    obtain ⟨contents, kind⟩ := kind_of_item? isItem
    rw [kind]
    refine describedAs_of_item edits rfl (by simp [Edit.name, sharedNames]) ?_
    intro common own
    refine itemObject_edited_of_mimeType edits (by simp [Edit.name]) _ ?_ ?_ common
    · intro metadata
      simp [itemContents, variantOf, trackNumberOf, edits.own rfl, Edit.name, Edit.value, present]
    · exact fun _ => rfl
  | action text | state text =>
    obtain ⟨present, isActive⟩ := suits
    obtain ⟨contents, command, kind, isActive⟩ := kind_of_command? isActive
    have read := looseTextOf?_assigned present
    rw [kind]
    refine describedAs_of_item edits rfl (by simp [Edit.name, sharedNames]) ?_
    intro common own
    refine itemObject_edited_of_mimeType edits (by simp [Edit.name]) _ ?_ ?_ common
    · intro metadata
      simp [itemContents, isActive, Variant.emptied, variantOf, trackNumberOf, edits.own rfl,
        Edit.name, Edit.value, read]
    · intro contents
      split <;> rfl

/-! ## Nothing is refused -/

/-- A fact about all bytes that are decoded, if it carries over from place to place. -/
theorem forall_decodedFor {fact : Bytes → Prop} {created : Kind}
    (property : ∀ name ≠ "location", fact (view table name).propertyBytes →
      fact (edited table name).propertyBytes)
    (entry : ∀ key, fact (metadataBytes view table key) → fact (metadataBytes edited table key))
    (before : ∀ contents ∈ decodedFor view table created, fact contents) :
    ∀ contents ∈ decodedFor edited table created, fact contents := by
  simp only [decodedFor, decodedEntries, List.forall_mem_append, List.forall_mem_cons,
    List.forall_mem_map] at before ⊢
  obtain ⟨⟨⟨title, upnpClass, none⟩, entries⟩, own⟩ := before
  refine ⟨⟨⟨property _ (by decide) title, property _ (by decide) upnpClass, none⟩,
    fun symbol member => entry _ (entries symbol member)⟩, ?_⟩
  cases created with
  | container contents => exact own
  | item contents =>
    simp only [decodedItem, List.forall_mem_append, List.forall_mem_cons] at own ⊢
    obtain ⟨⟨mimeType, serviceId, description, none⟩, link⟩ := own
    refine ⟨⟨property _ (by decide) mimeType, property _ (by decide) serviceId,
      property _ (by decide) description, none⟩, ?_⟩
    cases isUrl : contents.variant.isUrl with
    | false => simp
    | true =>
      rw [isUrl] at link
      simpa using property _ (by decide) (link _ (List.mem_singleton_self _))

/-- What is decoded of an edited table is text if it was text before. -/
theorem decodedFor_edited (edits : edit.Edits view edited table) {created : Kind}
    (texts : ∀ contents ∈ decodedFor view table created, ∃ text, contents = Bytes.ofString text) :
    ∀ contents ∈ decodedFor edited table created, ∃ text, contents = Bytes.ofString text := by
  refine forall_decodedFor ?_ ?_ texts
  · intro name other before
    rw [edits.property]
    split
    · next place =>
      obtain ⟨outer, rfl⟩ := place
      cases edit with
      | location contents => exact absurd rfl other
      | metadata key text => cases outer
      | _ => exact ⟨_, rfl⟩
    · exact before
  · intro key before
    rw [edits.metadataBytes]
    split
    · next place =>
      cases edit with
      | metadata key text => exact ⟨text.getD "", by cases text <;> simp [Edit.value]⟩
      | _ => cases place.1
    · exact before

theorem outcome_edited (shows : ObjectTable.Shows view table (.ofObject object))
    (edits : edit.Edits view edited table) (previous : Option Object) :
    internal.outcome edited table previous =
      .ok (some (internal.describedAs edited table previous object.kind.emptied)) := by
  have requested : (edited table "objectType").propertyInt32 (-1) = object.kind.typeBits := by
    rw [edits.kept _ (by decide), shows.property _ (by decide), ObjectTable.property_objectType,
      Value.propertyInt32_ofInt32]
    rfl
  unfold outcome
  simp only [requested, if_neg object.kind.typeBits_ne, Kind.ofType?_typeBits]
  exact internal.checked_texts _ _ (decodedFor_edited edits (decodedFor_shows shows))

end Reader

/-! ## Assigning to a table that shows an object -/

namespace Edit

variable (edit : Edit) {heap : Heap} {table nested : Nat}

/-- The heap after an edit of a table with a table of metadata. -/
def edited (heap : Heap) (table nested : Nat) : Heap :=
  heap.rawSet (if edit.isEntry then nested else table) (.ofString edit.name) edit.value

/-- On a plain table, an assignment changes one place on the heap. -/
theorem direct_assignment (site : Option Site) (plain : IsPlain heap table)
    (named : heap.property table "meta" = .table nested) :
    ∃ steps ≤ 3, Behaviour.Direct heap (edit.assignment site table) steps ()
      (edit.edited heap table nested) := by
  unfold assignment holder edited
  cases edit.isEntry with
  | true =>
    have found := direct_index plain.outer site (.ofString "meta") []
    rw [show heap.rawGet table (.ofString "meta") = .table nested from named] at found
    exact ⟨3, Nat.le_refl _, found.bind (fun holder => store site holder _ edit.value [])
      (direct_store (plain.nested nested named) site rfl edit.value [])⟩
  | false =>
    exact ⟨2, by decide, direct_store plain.outer site rfl edit.value []⟩

theorem edits_edited (named : heap.property table "meta" = .table nested)
    (apart : nested ≠ table) :
    edit.Edits heap.property (edit.edited heap table nested).property table := by
  have same : ∀ key, Value.ofString edit.name = .ofString key ↔ key = edit.name := by
    intro key
    rw [Value.ofString, Value.ofString, Value.str.injEq, Bytes.ofString_inj]
    exact eq_comm
  constructor
  · intro key
    simp only [edited, Heap.property_rawSet, same]
    cases edit.isEntry <;> simp [apart.symm]
  · refine ⟨nested, named, fun key => ?_⟩
    simp only [edited, Heap.property_rawSet, same]
    cases edit.isEntry <;> simp [apart]

theorem isPlain_edited (plain : IsPlain heap table)
    (named : heap.property table "meta" = .table nested) (apart : nested ≠ table) :
    IsPlain (edit.edited heap table nested) table := by
  have kept := (edit.edits_edited named apart).kept "meta" (by decide)
  obtain ⟨outer, inner⟩ := plain
  constructor
  · rw [edited, Heap.metatable_rawSet, outer]
  · intro id own
    rw [edited, Heap.metatable_rawSet]
    exact inner id (kept ▸ own)

end Edit

namespace Reader

/-- One assignment to a table that shows an object changes one field of what comes back.  The
table is read back over the object itself, in an import context. -/
theorem read_edited_over_object {σ : Type} (host : Host σ) (interpreter : Interpreter) (state : σ)
    (conversions : Conversions) (object : Object) :
    let shown := (ObjectTable.ofObject object).allocate interpreter.heap
    let untouched := { interpreter with heap := shown.1 }
    let reading := (Reader.ofConversions .layout conversions).object (some object) (some shown.2)
    ∃ back, untouched.read host state reading = (.ok (some back), untouched, state) ∧
      ∀ (edit : Edit) (site : Option Site), edit.Suits object →
        ∃ edited : Interpreter,
          untouched.attempt host state ((fun _ => .result []) <$> edit.assignment site shown.2) =
            (.ok [], edited, state) ∧
          edited.read host state reading =
            (.ok (some (edit.applied object back)), edited, state) := by
  intro shown untouched reading
  have shows := (ObjectTable.ofObject object).shows_allocate interpreter.heap
  have plain := isPlain_allocate (ObjectTable.ofObject object) interpreter.heap
  have named := (ObjectTable.ofObject object).property_meta_allocate interpreter.heap
  have absent : ∀ name, name ∉ ObjectTable.kindNames → name ∉ ObjectTable.commonNames →
      name ∉ ["meta", "aux", "res"] → shown.1.property shown.2 name = .nil := by
    intro name notKind notCommon notNested
    rw [shows.property name notNested, ObjectTable.property_eq_nil object name notKind notCommon]
  refine ⟨internal.describedAs shown.1.property shown.2 (some object) object.kind.emptied,
    read_untouched host interpreter state internal object, ?_⟩
  intro edit site suits
  have apart : interpreter.heap.fresh ≠ shown.2 := by
    simp [shown, ObjectTable.allocate_id]
  obtain ⟨steps, few, direct⟩ := edit.direct_assignment site plain named
  have edits := edit.edits_edited named apart
  have enough : steps < stepLimit := Nat.lt_of_le_of_lt few (by decide)
  refine ⟨_, Interpreter.attempt_of_direct host untouched state (direct.map _) enough, ?_⟩
  have reread := read_of_isPlain host
    { interpreter with heap := edit.edited shown.1 shown.2 interpreter.heap.fresh } state internal
    (some object) shown.2 (edit.isPlain_edited plain named apart)
  rw [← describedAs_edited edits suits (absent _ (by decide) (by decide) (by decide))
    (absent _ (by decide) (by decide) (by decide)), ← outcome_edited shows edits]
  exact reread

/-- A link that has neither resources nor a known type of contents. -/
def webRadio : Object where
  title := "Radio"
  kind := .item { variant := .externalUrl }

/-- The link when a script has told the type of its contents. -/
def typedRadio : Object where
  title := "Radio"
  isVirtual := true
  restricted := true
  resources := [⟨0, (∅ : TextMap).insert "protocolInfo" "http-get:*:audio/mpeg:*"⟩]
  kind := .item { mimeType := "audio/mpeg", variant := .externalUrl }

/-- A link that a script gives a type: the type also stands in the resource that is made up. -/
theorem read_typed_webRadio :
    let shown := (ObjectTable.ofObject webRadio).allocate {}
    let untouched : Interpreter := { heap := shown.1 }
    let edit := Edit.mimeType "audio/mpeg"
    edit.Suits webRadio ∧ ∃ edited : Interpreter,
      untouched.attempt Importer.host ⟨.absent, {}⟩
          ((fun _ => .result []) <$> edit.assignment none shown.2) =
        (.ok [], edited, ⟨.absent, {}⟩) ∧
      (edited.read Importer.host ⟨.absent, {}⟩
          ((Reader.ofConversions .layout ⟨.utf8, .utf8, .utf8, .utf8⟩).object (some webRadio)
            (some shown.2))).1 = .ok (some typedRadio) := by
  intro shown untouched edit
  have suits : edit.Suits webRadio := by
    constructor <;> decide
  obtain ⟨back, came, edits⟩ := read_edited_over_object Importer.host { heap := {} }
    ⟨.absent, {}⟩ ⟨.utf8, .utf8, .utf8, .utf8⟩ webRadio
  obtain ⟨edited, assigned, reread⟩ := edits edit none suits
  have own : back = webRadio.handedBack := by
    have shows := (ObjectTable.ofObject webRadio).shows_allocate {}
    have described := (read_untouched Importer.host { heap := {} } ⟨.absent, {}⟩ internal
      webRadio).symm.trans came
    rw [describedAs_handedBack shows] at described
    exact (Option.some.inj (Except.ok.inj (congrArg Prod.fst described))).symm
  have applied : edit.applied webRadio webRadio.handedBack = typedRadio := by
    decide +kernel
  exact ⟨suits, edited, assigned, by rw [reread, own, applied]⟩

end Reader

end MediaImport.Exchange
