import MediaImport.Proofs.Exchange.DocumentedProperties

/-!
# Properties that may be left out

A property that a script leaves out is taken from the previous object.  So it makes no
difference whether a table leaves some of these properties out or has them as the previous
object is shown, for any of the properties that are taken over, and for a table of any kind.

Each property has its own way of being absent: texts and locations are empty, numbers are
negative, and the contents of an item or the command of an active item are taken over only
from an object that has them.  What they have in common is that a value that was left out
and the value that is shown come to the same, and that neither is refused.
-/

namespace MediaImport.Exchange

open MediaImport.Media MediaImport.Script ObjectTable

/-- The properties that are taken from the previous object where a table leaves them out. -/
def inheritedNames : List String :=
  ["title", "upnpclass", "location", "mtime", "sizeOnDisk", "mimetype", "serviceID", "action",
    "state"]

/-- Another view of a table: under some names, it has what shows an object. -/
def filledIn (object : Object) (names : List String) (view : Nat → String → Value) (table : Nat)
    (place : Nat) (name : String) : Value :=
  if place = table ∧ name ∈ names then (ofObject object).property name else view place name

/-- A table has nothing under some names, which are names of properties that are taken over. -/
def LeavesOut (view : Nat → String → Value) (table : Nat) (names : List String) : Prop :=
  ∀ name ∈ names, name ∈ inheritedNames ∧ view table name = .nil

/-! ## What shows the contents of items -/

namespace ObjectTable

variable (object : Object)

/-- What items have, and nothing for a container. -/
theorem property_contents {name : String} (field : Item → String)
    (member : name ∈ ["mimetype", "serviceID"]) (blank : field {} = "")
    (shown : ∀ contents, object.kind = .item contents →
      ((ofObject object).property name).propertyBytes = Bytes.ofString (field contents)) :
    ((ofObject object).property name).propertyBytes =
      Bytes.ofString (field (object.item?.getD {})) := by
  cases kind : object.kind with
  | item contents =>
    rw [shown contents kind, Object.item?, kind]
    rfl
  | container contents =>
    have absent : (ofObject object).property name = .nil := by
      simp only [List.mem_cons, List.not_mem_nil, or_false] at member
      rcases member with rfl | rfl <;>
        rw [property_of_notMem_commonNames _ _ (by decide), kind] <;> rfl
    rw [absent, Object.item?, kind]
    change [] = Bytes.ofString (field {})
    rw [blank]
    rfl

/-- What active items have, and nothing for all other objects. -/
theorem property_command {name : String} (field : Command → String)
    (member : name ∈ ["action", "state"]) (blank : field {} = "")
    (shown : ∀ contents, object.kind = .item contents → ∀ command,
      contents.variant = .active command →
        ((ofObject object).property name).propertyBytes = Bytes.ofString (field command)) :
    ((ofObject object).property name).propertyBytes =
      Bytes.ofString (field (object.command?.getD {})) := by
  have absent : object.command? = none → (ofObject object).property name = .nil := by
    intro inactive
    simp only [List.mem_cons, List.not_mem_nil, or_false] at member
    rw [property_of_notMem_commonNames]
    · unfold Object.command? at inactive
      cases kind : object.kind with
      | container contents => rcases member with rfl | rfl <;> rfl
      | item contents =>
        obtain ⟨mimeType, serviceId, trackNumber, variant⟩ := contents
        cases variant with
        | active command =>
          rw [kind] at inactive
          cases inactive
        | _ => rcases member with rfl | rfl <;> simp [kindProperties]
    · rcases member with rfl | rfl <;> decide
  cases active : object.command? with
  | none =>
    rw [absent active]
    change [] = Bytes.ofString (field {})
    rw [blank]
    rfl
  | some command =>
    unfold Object.command? at active
    split at active
    · next kind =>
      obtain rfl := Option.some.inj active
      rw [shown _ kind _ rfl]
      rfl
    · cases active

end ObjectTable

namespace Reader

variable {object : Object} {names : List String} {view : Nat → String → Value} {table : Nat}

/-! ## One property -/

theorem filledIn_of_notMem {name : String} (leaves : LeavesOut view table names)
    (other : name ∉ inheritedNames) (place : Nat) :
    filledIn object names view table place name = view place name := by
  rw [filledIn, if_neg]
  rintro ⟨-, member⟩
  exact other (leaves name member).1

theorem filledIn_cases (leaves : LeavesOut view table names) (name : String) :
    filledIn object names view table table name = view table name ∨
      view table name = .nil ∧
        filledIn object names view table table name = (ofObject object).property name := by
  unfold filledIn
  by_cases member : name ∈ names
  · rw [if_pos ⟨rfl, member⟩]
    exact .inr ⟨(leaves name member).2, rfl⟩
  · rw [if_neg fun given => member given.2]
    exact .inl rfl

/-- A text that is taken over. -/
theorem textOf?_filledIn (leaves : LeavesOut view table names) {name text : String}
    (shown : ((ofObject object).property name).propertyBytes = Bytes.ofString text) :
    (internal.textOf? (filledIn object names view table table name).propertyBytes).getD text =
      (internal.textOf? (view table name).propertyBytes).getD text := by
  rcases filledIn_cases leaves name with same | ⟨absent, given⟩
  · rw [same]
  · rw [absent, given, shown, textOf?_ofString, getD_unless, reread_internal,
      text_orElse text text (.inl rfl)]
    rfl

/-- A text that is taken over, and is read with replacements. -/
theorem looseTextOf?_filledIn (leaves : LeavesOut view table names) {name text : String}
    (shown : ((ofObject object).property name).propertyBytes = Bytes.ofString text) :
    (looseTextOf? (filledIn object names view table table name)).getD text =
      (looseTextOf? (view table name)).getD text := by
  rcases filledIn_cases leaves name with same | ⟨absent, given⟩
  · rw [same]
  · have nothing : Value.nil.propertyText = "" := Utf8.lossy_ofString ""
    have written : ((ofObject object).property name).propertyText = text := by
      rw [Value.propertyText, shown, Utf8.lossy_ofString]
    rw [absent, given, looseTextOf?, looseTextOf?, nothing, written, getD_unless, getD_unless]
    simp only [String.isEmpty_iff, text_orElse text text (.inl rfl), if_true]

theorem location_filledIn (leaves : LeavesOut view table names) :
    (let location := (filledIn object names view table table "location").propertyBytes
      if location.isEmpty then object.location else location) =
      let location := (view table "location").propertyBytes
      if location.isEmpty then object.location else location := by
  rcases filledIn_cases leaves "location" with same | ⟨absent, given⟩
  · rw [same]
  · simp only [absent, given, property_location]
    exact location_orElse object.location object.location (.inl rfl)

theorem mtime_filledIn (leaves : LeavesOut view table names) :
    (naturalOf? (filledIn object names view table table "mtime")).getD object.mtime =
      (naturalOf? (view table "mtime")).getD object.mtime := by
  rcases filledIn_cases leaves "mtime" with same | ⟨absent, given⟩
  · rw [same]
  · rw [absent, given, property_mtime, naturalOf?_int, getD_if]
    exact ite_self _

theorem size_filledIn (leaves : LeavesOut view table names)
    (fits : object.sizeOnDisk ≤ 9223372036854775807) :
    ((naturalOf? (filledIn object names view table table "sizeOnDisk")).map
        Int64.toUInt64).getD object.sizeOnDisk =
      ((naturalOf? (view table "sizeOnDisk")).map Int64.toUInt64).getD object.sizeOnDisk := by
  rcases filledIn_cases leaves "sizeOnDisk" with same | ⟨absent, given⟩
  · rw [same]
  · rw [absent, given, property_sizeOnDisk, naturalOf?_sizeValue]
    exact if_pos fits

/-- What is filled in is text, so it is refused no more than what is left out. -/
theorem fault?_filledIn (leaves : LeavesOut view table names) {name text : String}
    (shown : ((ofObject object).property name).propertyBytes = Bytes.ofString text) :
    internal.fault? (filledIn object names view table table name).propertyBytes =
      internal.fault? (view table name).propertyBytes := by
  rcases filledIn_cases leaves name with same | ⟨absent, given⟩
  · rw [same]
  · rw [absent, given, shown, fault?_ofString]
    exact (fault?_nil internal).symm

/-! ## Whole objects -/

theorem metadataBytes_filledIn (leaves : LeavesOut view table names) :
    ∀ symbol ∈ MetadataKey.all, metadataBytes (filledIn object names view table) table symbol.text =
      metadataBytes view table symbol.text := by
  intro symbol member
  have other : symbol.text ∉ inheritedNames := by
    revert symbol
    decide
  unfold metadataBytes
  rw [filledIn_of_notMem leaves (by decide)]
  cases (view table "meta").propertyTable? with
  | none => rfl
  | some id => exact congrArg Value.propertyBytes (filledIn_of_notMem leaves other id)

theorem commonObject_filledIn (leaves : LeavesOut view table names)
    (fits : object.sizeOnDisk ≤ 9223372036854775807) (created : Object) :
    internal.commonObject (filledIn object names view table) table (some object) created =
      internal.commonObject view table (some object) created := by
  have metadata : internal.metadataWith (metadataBytes (filledIn object names view table) table)
      MetadataKey.all ∅ = internal.metadataWith (metadataBytes view table) MetadataKey.all ∅ :=
    metadataWith_congr ∅ fun symbol member => by rw [metadataBytes_filledIn leaves symbol member]
  have location := @location_filledIn object _ _ _ leaves
  dsimp only at location
  simp only [commonObject, Option.getD_some, metadata, location,
    filledIn_of_notMem leaves (show "id" ∉ inheritedNames by decide),
    filledIn_of_notMem leaves (show "refID" ∉ inheritedNames by decide),
    filledIn_of_notMem leaves (show "parentID" ∉ inheritedNames by decide),
    filledIn_of_notMem leaves (show "restricted" ∉ inheritedNames by decide),
    textOf?_filledIn leaves (property_title object),
    textOf?_filledIn leaves (property_upnpClass object),
    mtime_filledIn leaves, size_filledIn leaves fits]

theorem shown_mimeType (object : Object) :
    ((ofObject object).property "mimetype").propertyBytes =
      Bytes.ofString (object.item?.getD {}).mimeType :=
  property_contents object Item.mimeType (by decide) rfl (property_mimeType object)

theorem shown_serviceId (object : Object) :
    ((ofObject object).property "serviceID").propertyBytes =
      Bytes.ofString (object.item?.getD {}).serviceId :=
  property_contents object Item.serviceId (by decide) rfl (property_serviceId object)

theorem shown_action (object : Object) :
    ((ofObject object).property "action").propertyBytes =
      Bytes.ofString (object.command?.getD {}).action :=
  property_command object Command.action (by decide) rfl (property_action object)

theorem shown_state (object : Object) :
    ((ofObject object).property "state").propertyBytes =
      Bytes.ofString (object.command?.getD {}).state :=
  property_command object Command.state (by decide) rfl (property_state object)

theorem variantOf_filledIn (leaves : LeavesOut view table names) (created : Variant) :
    variantOf (filledIn object names view table) table (some object) created =
      variantOf view table (some object) created := by
  cases created with
  | active command =>
    simp only [variantOf, Option.bind_some, looseTextOf?_filledIn leaves (shown_action object),
      looseTextOf?_filledIn leaves (shown_state object)]
  | _ => rfl

theorem itemObject_filledIn (leaves : LeavesOut view table names) (created : Variant)
    (common : Object) :
    internal.itemObject (filledIn object names view table) table (some object) created common =
      internal.itemObject view table (some object) created common := by
  have contents : ∀ metadata,
      internal.itemContents (filledIn object names view table) table (some object) created
          metadata =
        internal.itemContents view table (some object) created metadata := by
    intro metadata
    simp only [itemContents, Option.bind_some, textOf?_filledIn leaves (shown_mimeType object),
      textOf?_filledIn leaves (shown_serviceId object), variantOf_filledIn leaves]
    rfl
  simp only [itemObject, contents, asLink,
    filledIn_of_notMem leaves (show "description" ∉ inheritedNames by decide),
    filledIn_of_notMem leaves (show "protocol" ∉ inheritedNames by decide)]

theorem describedAs_filledIn (leaves : LeavesOut view table names)
    (fits : object.sizeOnDisk ≤ 9223372036854775807) (created : Kind) :
    internal.describedAs (filledIn object names view table) table (some object) created =
      internal.describedAs view table (some object) created := by
  cases created with
  | item contents =>
    simp only [describedAs, commonObject_filledIn leaves fits, itemObject_filledIn leaves]
  | container contents =>
    simp only [describedAs, commonObject_filledIn leaves fits, containerObject,
      filledIn_of_notMem leaves (show "updateID" ∉ inheritedNames by decide),
      filledIn_of_notMem leaves (show "searchable" ∉ inheritedNames by decide)]

/-! ## Refusals -/

/-- Only the faults of what is decoded matter. -/
theorem checked_of_faults (reader : Reader) {α : Type} {decoded others : List Bytes}
    (same : decoded.map reader.fault? = others.map reader.fault?) (value : α) :
    reader.checked decoded value = reader.checked others value := by
  have first : ∀ decoded : List Bytes, decoded.findSome? reader.fault? =
      (decoded.map reader.fault?).findSome? id := by
    intro decoded
    rw [List.findSome?_map]
    rfl
  rw [checked, checked, first, first, same]

theorem faults_filledIn (leaves : LeavesOut view table names) (created : Kind) :
    (decodedFor (filledIn object names view table) table created).map internal.fault? =
      (decodedFor view table created).map internal.fault? := by
  have entries : decodedEntries (metadataBytes (filledIn object names view table) table)
      MetadataKey.all = decodedEntries (metadataBytes view table) MetadataKey.all :=
    List.map_congr_left fun symbol member =>
      metadataBytes_filledIn leaves symbol (List.mem_filter.mp member).1
  have item : ∀ variant : Variant,
      (decodedItem (filledIn object names view table) table variant).map internal.fault? =
        (decodedItem view table variant).map internal.fault? := by
    intro variant
    simp only [decodedItem, List.map_append, List.map_cons,
      fault?_filledIn leaves (shown_mimeType object),
      fault?_filledIn leaves (shown_serviceId object),
      filledIn_of_notMem leaves (show "description" ∉ inheritedNames by decide),
      filledIn_of_notMem leaves (show "protocol" ∉ inheritedNames by decide)]
  cases created with
  | item contents =>
    simp only [decodedFor, List.map_append, List.map_cons, entries, item,
      fault?_filledIn leaves (property_title object),
      fault?_filledIn leaves (property_upnpClass object)]
  | container contents =>
    simp only [decodedFor, List.map_append, List.map_cons, entries,
      fault?_filledIn leaves (property_title object),
      fault?_filledIn leaves (property_upnpClass object)]

/-- Reading a table that is filled in comes to what reading it as it was comes to. -/
theorem outcome_filledIn (leaves : LeavesOut view table names)
    (fits : object.sizeOnDisk ≤ 9223372036854775807) :
    internal.outcome (filledIn object names view table) table (some object) =
      internal.outcome view table (some object) := by
  unfold outcome
  rw [filledIn_of_notMem leaves (by decide)]
  generalize (view table "objectType").propertyInt32 (-1) = requested
  dsimp only
  cases Kind.ofType? requested with
  | none => rfl
  | some created =>
    simp only [describedAs_filledIn leaves fits,
      checked_of_faults internal (faults_filledIn leaves created)]

/-! ## Filling in a table on the heap -/

section Stored

variable {heap : Heap} {shown : Nat}

theorem property_stored (leaves : LeavesOut heap.property table names)
    (shows : Shows heap.property shown (ofObject object)) :
    (heap.storeUnder table (heap.property shown) names).property =
      filledIn object names heap.property table := by
  have inherited : ∀ name ∈ inheritedNames, name ∉ ["meta", "aux", "res"] := by decide
  funext place name
  rw [Heap.property_storeUnder, filledIn]
  split
  · next given => exact shows.property name (inherited name (leaves name given.2).1)
  · rfl

theorem isPlain_stored (leaves : LeavesOut heap.property table names) (plain : IsPlain heap table)
    (value : String → Value) : IsPlain (heap.storeUnder table value names) table := by
  have other : "meta" ∉ names := by
    intro member
    exact absurd (leaves "meta" member).1 (by decide)
  constructor
  · rw [Heap.metatable_storeUnder, plain.outer]
  · intro id nested
    rw [Heap.property_storeUnder, if_neg fun given => other given.2] at nested
    rw [Heap.metatable_storeUnder, plain.nested id nested]

end Stored

/-- Leaving properties out is having them as the previous object is shown.  That holds of two
readings for import that raise no error and are given the same answers apart from these
properties, by the application or by a running script, and so of every plain table in which
they are stored as the table holds them that shows the object. -/
theorem read_omitted {σ τ : Type} (host : Host σ) (another : Host τ) (conversions : Conversions)
    (object : Object) (fits : object.sizeOnDisk ≤ 9223372036854775807) (names : List String)
    (table twin : Nat) :
    let reader := Reader.ofConversions .layout conversions
    let reading := reader.object (some object) (some table)
    let rereading := reader.object (some object) (some twin)
    (∀ (first : Interpreter) (state : σ) (second : Interpreter) (later : τ),
      Interpreter.Quiet host reading first state →
      Interpreter.Quiet another rereading second later →
        (∃ view, Interpreter.Answered host view reading first state) ∧
        (∃ other, Interpreter.Answered another other rereading second later) ∧
        ∀ view other, Interpreter.Answered host view reading first state →
          Interpreter.Answered another other rereading second later →
          LeavesOut view table names →
          ReadsAlike .layout (filledIn object names view table) table other twin →
          (second.read another later rereading).1 = (first.read host state reading).1) ∧
    (∀ first steps ending second more reending view other,
      Config.FollowsIn host view reading first steps ending →
      Config.FollowsIn another other rereading second more reending →
      LeavesOut view table names →
      ReadsAlike .layout (filledIn object names view table) table other twin →
        reending.under other = ending.under view) ∧
    ∀ (interpreter : Interpreter) (state : σ) (shown : Nat), IsPlain interpreter.heap table →
      LeavesOut interpreter.heap.property table names →
      Shows interpreter.heap.property shown (ofObject object) →
        (Interpreter.read host
            { interpreter with
              heap := interpreter.heap.storeUnder table (interpreter.heap.property shown) names }
            state reading).1 =
          (interpreter.read host state reading).1 := by
  intro reader reading rereading
  have same : ∀ view other, LeavesOut view table names →
      ReadsAlike .layout (filledIn object names view table) table other twin →
        reader.outcome other twin (some object) = reader.outcome view table (some object) := by
    intro view other leaves alike
    exact (reader.outcome_congr alike (some object)).symm.trans (outcome_filledIn leaves fits)
  refine ⟨?_, ?_, ?_⟩
  · intro first state second later quiet requiet
    refine ⟨quiet.exists_answered, requiet.exists_answered, ?_⟩
    intro view other answered reanswered leaves alike
    rw [Interpreter.read_of_answered answered, Interpreter.read_of_answered reanswered,
      under_object, under_object]
    exact same view other leaves alike
  · intro first steps ending second more reending view other follows refollows leaves alike
    rw [← follows.under, ← refollows.under, under_object, under_object]
    exact same view other leaves alike
  · intro interpreter state shown plain leaves shows
    let stored := interpreter.heap.storeUnder table (interpreter.heap.property shown) names
    have reread := read_of_isPlain host { interpreter with heap := stored } state reader
      (some object) table (isPlain_stored leaves plain _)
    rw [read_of_isPlain host interpreter state reader (some object) table plain]
    refine (congrArg Prod.fst reread).trans ?_
    change reader.outcome stored.property table (some object) = _
    rw [property_stored leaves shows]
    exact outcome_filledIn leaves fits

/-! A stream that replaces a player, and leaves out all that it can take over. -/

/-- A player that is switched on, with a text for everything. -/
def player : Object where
  title := "Radio"
  upnpClass := "object.item"
  location := Bytes.ofString "/radio"
  mtime := -5
  sizeOnDisk := 7
  kind := .item {
    mimeType := "audio/mpeg"
    serviceId := "fm"
    variant := .active { action := "play", state := "on" } }

/-- A heap with a table that asks for a stream and says no more, and the tables that show the
player. -/
def streamHeap : Heap :=
  ((ofObject player).allocate
    (({} : Heap).newTable (.ofEntries (Table.stringEntries [("objectType", .int 10)]))).1).1

/-- The stream that comes back. -/
def stream : Object where
  title := "Radio"
  upnpClass := "object.item"
  restricted := true
  isVirtual := true
  location := Bytes.ofString "/radio"
  mtime := -5
  sizeOnDisk := 7
  resources := [{
    handler := 0
    attributes := (∅ : TextMap).insert "protocolInfo" "http-get:*:audio/mpeg:*" }]
  kind := .item { mimeType := "audio/mpeg", serviceId := "fm", variant := .externalUrl }

theorem isPlain_streamHeap : IsPlain streamHeap 0 := by
  refine isPlain_of_isBare ?_ 0
  exact ((((Heap.isBare_empty.newTable _).newTable _).newTable _).newTable _).newTable _

theorem leavesOut_streamHeap : LeavesOut streamHeap.property 0 inheritedNames := by
  have left : ∀ name ∈ inheritedNames, streamHeap.property 0 name = .nil := by
    decide +kernel
  exact fun name member => ⟨member, left name member⟩

/-- The stream is the same whether its table leaves all of these properties out, or has those
that the table of the player has. -/
theorem read_omitted_stream :
    let reading := (Reader.ofConversions .layout ⟨.utf8, .utf8, .latin1, .utf8⟩).object
      (some player) (some 0)
    let first : Interpreter := { heap := streamHeap }
    let second : Interpreter :=
      { heap := streamHeap.storeUnder 0 (streamHeap.property 4) inheritedNames }
    let desk : Importer.Desk := ⟨.absent, {}⟩
    player.sizeOnDisk ≤ 9223372036854775807 ∧
      LeavesOut streamHeap.property 0 inheritedNames ∧
      second.heap.property 0 "title" = .ofString "Radio" ∧
      second.heap.property 0 "state" = .ofString "on" ∧
      (first.read Importer.host desk reading).1 = .ok (some stream) ∧
      (second.read Importer.host desk reading).1 = .ok (some stream) := by
  intro reading first second desk
  have fits : player.sizeOnDisk ≤ 9223372036854775807 := by decide
  obtain ⟨-, -, onHeap⟩ := read_omitted Importer.host Importer.host
    ⟨.utf8, .utf8, .latin1, .utf8⟩ player fits inheritedNames 0 0
  have shows : Shows streamHeap.property 4 (ofObject player) := shows_allocate _ _
  have same := onHeap first desk 4 isPlain_streamHeap leavesOut_streamHeap shows
  have read : (first.read Importer.host desk reading).1 = .ok (some stream) := by
    rw [read_of_isPlain Importer.host first desk _ _ 0 isPlain_streamHeap]
    decide +kernel
  exact ⟨fits, leavesOut_streamHeap, by decide +kernel, by decide +kernel, read, same.trans read⟩

/-! A table that notices whether it has a title of its own. -/

/-- A script whose table has another class once it was asked for a title. -/
def evasive : String :=
  "local asked = false\n" ++
  "local function answer(_, name)\n" ++
  "  if name == 'title' then asked = true end\n" ++
  "  if name == 'upnpclass' and asked then return 'asked' end\n" ++
  "end\n" ++
  "orig = setmetatable(\x7bobjectType = OBJECT_TYPE_ITEM\x7d, \x7b__index = answer\x7d)"

/-- The table, and the interpreter in which the script has run. -/
def evading : Except Failure Value × Interpreter × Importer.Desk :=
  let work : Importer.Work Value := do
    Importer.Work.load "s.lua" evasive
    Importer.Work.runProgram
    Importer.Work.global "orig"
  work.run (Importer.prepared (.ofTexts fun _ => ""), ⟨.absent, {}⟩)

/-- A song of some class. -/
def songOf (upnpClass : String) : Object where
  title := "Song"
  upnpClass := upnpClass
  isVirtual := true
  kind := .item {}

set_option maxRecDepth 100000 in
/-- One table is read as it is, and with the title that the table of the previous object has,
from the same interpreter and without an error.  What comes back differs in the class. -/
theorem class_differs_with_title :
    let reading := (Reader.ofConversions .layout ⟨.utf8, .utf8, .utf8, .utf8⟩).object
      (some (songOf "")) (some 10)
    let read (heap : Heap) : Except Failure (Option Object) :=
      (Interpreter.read Importer.host { evading.2.1 with heap } evading.2.2 reading).1
    let heap := evading.2.1.heap
    let filled := heap.storeUnder 10 (ofObject (songOf "")).property ["title"]
    evading.1 = .ok (.table 10) ∧
      heap.property 10 "title" = .nil ∧ filled.property 10 "title" = .ofString "Song" ∧
      read heap = .ok (some (songOf "asked")) ∧ read filled = .ok (some (songOf "")) ∧
      read filled ≠ read heap := by
  intro reading read heap filled
  -- The script is evaluated once for all of them.
  have ⟨left, absent, given, untitled, titled⟩ : evading.1 = .ok (.table 10) ∧
      heap.property 10 "title" = .nil ∧ filled.property 10 "title" = .ofString "Song" ∧
      read heap = .ok (some (songOf "asked")) ∧ read filled = .ok (some (songOf "")) := by
    decide +kernel
  refine ⟨left, absent, given, untitled, titled, ?_⟩
  rw [untitled, titled]
  decide +kernel

end Reader

end MediaImport.Exchange
