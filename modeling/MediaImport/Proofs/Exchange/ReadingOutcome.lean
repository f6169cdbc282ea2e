import MediaImport.Exchange.ObjectReading
import MediaImport.Proofs.Text.Charset

/-!
# What a reading of a table comes to

Where every property has a fixed value, reading an object is a plain function of
these values.  Most properties are coerced and cannot fail.  The others are
decoded in a fixed order, and the first of them whose bytes are no text decides:
`Reader.checked` gives a value unless some bytes of a list are no text, and a
reading that decodes one list after another checks their concatenation.

So an object is found in two independent parts: `Reader.describedAs`, the object
without any regard to faults, and `Reader.decodedFor`, the bytes that have to be
text.  `Reader.outcome` puts them together, and `Reader.under_object` shows that
reading does exactly that.
-/

namespace MediaImport.Exchange

open MediaImport.Media MediaImport.Script

@[simp]
theorem Reading.under_map {α β : Type} (view : Nat → String → Value)
    (change : α → β) (reading : Reading α) :
    (change <$> reading).under view = (reading.under view).map change := by
  change (reading >>= fun value => pure (change value)).under view = _
  rw [under_bind]
  cases reading.under view <;> rfl

namespace Reader

/-- Where bytes stop being text in the character set of a reader, if they do. -/
def fault? (reader : Reader) (contents : Bytes) : Option Nat :=
  match reader.charset.decode contents with
  | .ok _ => none
  | .error offset => some offset

/-- The text of a property, or nothing if it is empty. -/
def textOf? (reader : Reader) (contents : Bytes) : Option String :=
  if contents.isEmpty then none else (reader.charset.decode contents).toOption

/-- A value, unless some of the bytes that were decoded for it are no text. -/
def checked {α : Type} (reader : Reader) (decoded : List Bytes) (value : α) :
    Except Failure α :=
  match decoded.findSome? reader.fault? with
  | none => .ok value
  | some offset => .error (.conversion ⟨offset⟩)

@[simp]
theorem checked_nil {α : Type} (reader : Reader) (value : α) :
    reader.checked [] value = .ok value := rfl

theorem checked_bind {α β : Type} (reader : Reader) (first second : List Bytes)
    (value : α) (result : β) (next : α → Except Failure β)
    (continues : next value = reader.checked second result) :
    (reader.checked first value).bind next = reader.checked (first ++ second) result := by
  unfold checked
  rw [List.findSome?_append]
  cases first.findSome? reader.fault? with
  | none => exact continues
  | some offset => rfl

theorem checked_map {α β : Type} (reader : Reader) (decoded : List Bytes) (value : α)
    (change : α → β) :
    (reader.checked decoded value).map change = reader.checked decoded (change value) := by
  unfold checked
  split <;> rfl

@[simp]
theorem ok_bind {α β : Type} (value : α) (next : α → Except Failure β) :
    (Except.ok value).bind next = next value := rfl

variable (reader : Reader) (view : Nat → String → Value) (table : Nat)

theorem fault?_nil : reader.fault? [] = none := by
  have empty := reader.charset.decode_ofString ""
  rw [Bytes.ofString_empty] at empty
  rw [fault?, empty]

theorem under_decode (contents : Bytes) :
    (reader.decode contents).under view =
      reader.checked [contents] ((reader.charset.decode contents).toOption.getD "") := by
  unfold decode checked
  simp only [List.findSome?_cons, fault?, List.findSome?_nil]
  cases reader.charset.decode contents <;> rfl

theorem under_bytes (key : String) :
    (bytes (some table) key).under view = .ok (view table key).propertyBytes := by
  simp [bytes, Except.map]

theorem under_text? (key : String) :
    (reader.text? (some table) key).under view =
      reader.checked [(view table key).propertyBytes]
        (reader.textOf? (view table key).propertyBytes) := by
  rw [text?, Reading.under_bind, under_bytes]
  change Reading.under view (if _ then _ else _) = _
  by_cases empty : (view table key).propertyBytes.isEmpty = true
  · rw [if_pos empty, textOf?, if_pos empty, List.isEmpty_iff.mp empty]
    simp [checked, fault?_nil]
  · rw [if_neg empty, textOf?, if_neg empty, Reading.under_map, under_decode]
    unfold checked fault?
    cases decoded : reader.charset.decode (view table key).propertyBytes with
    | ok text => simp [decoded, Except.map, Except.toOption]
    | error offset => simp [decoded, Except.map]

theorem under_int32 (key : String) (fallback : Int32) :
    (int32 (some table) key fallback).under view =
      .ok ((view table key).propertyInt32 fallback) := by
  simp [int32, Except.map]

/-- A property as a signed 64-bit word that is not negative. -/
def naturalOf? (value : Value) : Option Int64 :=
  if 0 ≤ value.propertyInt64 (-1) then some (value.propertyInt64 (-1)) else none

theorem under_natural? (key : String) :
    (natural? (some table) key).under view = .ok (naturalOf? (view table key)) := by
  simp [natural?, naturalOf?, Except.map, Except.bind]

/-- The text of a property with replacements, or nothing if it is empty. -/
def looseTextOf? (value : Value) : Option String :=
  if value.propertyText.isEmpty then none else some value.propertyText

theorem under_looseText? (key : String) :
    (looseText? (some table) key).under view = .ok (looseTextOf? (view table key)) := by
  simp [looseText?, looseTextOf?, Except.map, Except.bind]

theorem under_flag (key : String) :
    (Value.propertyFlag? <$> Reading.property (some table) key).under view =
      .ok (view table key).propertyFlag? := by
  simp [Except.map]

/-! ## Metadata -/

/-- The entry that some bytes give under a metadata key. -/
def entryText (key : String) (contents : Bytes) : Option String :=
  if contents.isEmpty then none
  else if key = MetadataKey.trackNumber then
    if 0 < (Text.Integer.leading? (Utf8.lossy contents)).getD 0 then
      some (Utf8.lossy contents)
    else none
  else (reader.charset.decode contents).toOption

/-- Metadata with the entries that some bytes give under some keys. -/
def metadataWith (entries : String → Bytes) (keys : List Symbol) (metadata : TextMap) :
    TextMap :=
  keys.foldl (fun metadata key =>
    match reader.entryText key.text (entries key.text) with
    | some text => metadata.insert key.text text
    | none => metadata) metadata

/-- The bytes under metadata keys that are decoded: all but the track number. -/
def decodedEntries (entries : String → Bytes) (keys : List Symbol) : List Bytes :=
  (keys.filter fun key => key.text ≠ MetadataKey.trackNumber).map fun key => entries key.text

theorem metadataWith_cons (entries : String → Bytes) (key : Symbol) (keys : List Symbol)
    (metadata : TextMap) :
    reader.metadataWith entries (key :: keys) metadata =
      reader.metadataWith entries keys
        (match reader.entryText key.text (entries key.text) with
        | some text => metadata.insert key.text text
        | none => metadata) := rfl

theorem decodedEntries_cons (entries : String → Bytes) (key : Symbol) (keys : List Symbol) :
    decodedEntries entries (key :: keys) =
      (if key.text = MetadataKey.trackNumber then [] else [entries key.text]) ++
        decodedEntries entries keys := by
  unfold decodedEntries
  by_cases track : key.text = MetadataKey.trackNumber <;> simp [track]

theorem checked_nil_cons {α : Type} (decoded : List Bytes) (value : α) :
    reader.checked ([] :: decoded) value = reader.checked decoded value := by
  simp [checked, fault?_nil]

theorem under_metadataFrom (keys : List Symbol) (metadata : TextMap) :
    (reader.metadataFrom (some table) keys metadata).under view =
      reader.checked (decodedEntries (fun key => (view table key).propertyBytes) keys)
        (reader.metadataWith (fun key => (view table key).propertyBytes) keys metadata) := by
  induction keys generalizing metadata with
  | nil => rfl
  | cons key keys ih =>
    rw [metadataFrom, Reading.under_bind, under_bytes, metadataWith_cons]
    change Reading.under view (if _ then _ else _) = _
    generalize held : (view table key.text).propertyBytes = contents
    by_cases empty : contents.isEmpty = true
    · rw [if_pos empty, ih, entryText, if_pos empty, decodedEntries_cons, held,
        List.isEmpty_iff.mp empty]
      split
      · rfl
      · exact (checked_nil_cons reader _ _).symm
    rw [if_neg empty, entryText, if_neg empty, decodedEntries_cons, held]
    by_cases track : key.text = MetadataKey.trackNumber
    · rw [if_pos track, if_pos track, if_pos track, ih, withTrack, track]
      congr 1
      split <;> rfl
    · rw [if_neg track, if_neg track, if_neg track, Reading.under_bind, under_decode]
      cases decoded : reader.charset.decode contents with
      | ok text =>
        refine checked_bind reader _ _ _ _ _ ?_
        exact ih _
      | error offset => simp [checked, fault?, decoded, Except.bind]

/-- The bytes that the table of metadata holds under a key; none if there is no such
table. -/
def metadataBytes (key : String) : Bytes :=
  match (view table "meta").propertyTable? with
  | some id => (view id key).propertyBytes
  | none => []

theorem metadataWith_nothing (keys : List Symbol) (metadata : TextMap) :
    reader.metadataWith (fun _ => []) keys metadata = metadata := by
  induction keys with
  | nil => rfl
  | cons key keys ih => exact ih

theorem checked_nothing {α : Type} (keys : List Symbol) (value : α) :
    reader.checked (decodedEntries (fun _ => []) keys) value = .ok value := by
  induction keys with
  | nil => rfl
  | cons key keys ih =>
    rw [decodedEntries_cons]
    split
    · exact ih
    · exact (checked_nil_cons reader _ _).trans ih

theorem under_metadata :
    (reader.metadata (some table)).under view =
      reader.checked (decodedEntries (metadataBytes view table) MetadataKey.all)
        (reader.metadataWith (metadataBytes view table) MetadataKey.all ∅) := by
  rw [metadata, Reading.under_bind, Reading.under_property]
  change Reading.under view (match (view table "meta").propertyTable? with
    | some id => _ | none => _) = _
  unfold metadataBytes
  cases (view table "meta").propertyTable? with
  | some id => exact under_metadataFrom reader view id _ _
  | none => rw [checked_nothing, metadataWith_nothing]; rfl

/-- What all kinds of object have, as a table under a view describes it. -/
def commonObject (previous : Option Object) (created : Object) : Object :=
  let before := previous.getD created
  let location := (view table "location").propertyBytes
  { created with
    id := (view table "id").propertyInt32 noId
    refId := (view table "refID").propertyInt32 noId
    parentId := (view table "parentID").propertyInt32 noId
    title := (reader.textOf? (view table "title").propertyBytes).getD before.title
    upnpClass := (reader.textOf? (view table "upnpclass").propertyBytes).getD before.upnpClass
    restricted := (view table "restricted").propertyFlag?.getD false
    isVirtual := true
    location := if location.isEmpty then before.location else location
    mtime := (naturalOf? (view table "mtime")).getD before.mtime
    sizeOnDisk := ((naturalOf? (view table "sizeOnDisk")).map Int64.toUInt64).getD before.sizeOnDisk
    metadata := reader.metadataWith (metadataBytes view table) MetadataKey.all ∅
    auxiliary := before.auxiliary
    resources := before.resources
    flags := before.flags }

theorem under_common (previous : Option Object) (created : Object) :
    (reader.common previous (some table) created).under view =
      reader.checked
        ([(view table "title").propertyBytes, (view table "upnpclass").propertyBytes] ++
          decodedEntries (metadataBytes view table) MetadataKey.all)
        (reader.commonObject view table previous created) := by
  simp only [common, Reading.under_bind, under_int32, under_text?, under_flag, under_natural?,
    under_metadata, under_bytes, ok_bind, Reading.under_pure]
  rw [List.cons_append, ← List.singleton_append]
  refine checked_bind reader _ _ _ _ _ ?_
  rw [← List.singleton_append]
  refine checked_bind reader _ _ _ _ _ ?_
  rw [← List.append_nil (decodedEntries _ _)]
  refine checked_bind reader _ _ _ _ _ ?_
  rfl

/-! ## What only some kinds have -/

/-- The variant of an item, with the command that a table describes. -/
def variantOf (previous : Option Object) : Variant → Variant
  | .active _ =>
    let before := (previous.bind Object.command?).getD {}
    .active {
      action := (looseTextOf? (view table "action")).getD before.action
      state := (looseTextOf? (view table "state")).getD before.state }
  | other => other

theorem under_variant (previous : Option Object) (created : Variant) :
    (variant previous (some table) created).under view =
      .ok (variantOf view table previous created) := by
  cases created with
  | active command =>
    simp only [variant, Reading.under_bind, under_looseText?, ok_bind, Reading.under_pure]
    rfl
  | _ => rfl

/-- The track number of an item: from its metadata, or its place in a playlist. -/
def trackNumberOf (metadata : TextMap) : Int32 :=
  match reader.purpose with
  | .playlist => (view table "playlistOrder").propertyInt32 0
  | .layout => trackNumber metadata

/-- What items have, as a table under a view describes it. -/
def itemContents (previous : Option Object) (created : Variant) (metadata : TextMap) : Item :=
  let before := (previous.bind Object.item?).getD {}
  { mimeType := (reader.textOf? (view table "mimetype").propertyBytes).getD before.mimeType
    serviceId := (reader.textOf? (view table "serviceID").propertyBytes).getD before.serviceId
    trackNumber := reader.trackNumberOf view table metadata
    variant := variantOf view table previous created }

/-- A link is restricted, and has a resource. -/
def asLink (mimeType : String) (object : Object) : Object :=
  let protocol := (reader.textOf? (view table "protocol").propertyBytes).getD defaultProtocol
  { object with
    restricted := true
    resources :=
      if object.resources.isEmpty then [linkResource mimeType protocol] else object.resources }

/-- An item, as a table under a view describes it. -/
def itemObject (previous : Option Object) (created : Variant) (object : Object) : Object :=
  let contents := reader.itemContents view table previous created object.metadata
  let description := reader.textOf? (view table "description").propertyBytes
  let object := { object with
    metadata := withDescription description previous object.metadata
    kind := .item contents }
  if created.isUrl then reader.asLink view table contents.mimeType object else object

/-- The resource of an item that is a link and has no other. -/
def linkOf (contents : Item) : Resource :=
  linkResource contents.mimeType
    ((reader.textOf? (view table "protocol").propertyBytes).getD defaultProtocol)

theorem linkOf_eq (contents : Item) :
    reader.linkOf view table contents = {
      handler := 0
      attributes := (∅ : TextMap).insert "protocolInfo" <|
        (reader.textOf? (view table "protocol").propertyBytes).getD defaultProtocol ++ ":*:" ++
          (if contents.mimeType = "" then "*" else contents.mimeType) ++ ":*" } := by
  simp only [linkOf, linkResource, protocolInfo, String.isEmpty_iff]
  rfl

/-- What an item has besides what all kinds of object have. -/
theorem itemObject_eq (previous : Option Object) (variant : Variant) (common : Object) :
    reader.itemObject view table previous variant common =
      let contents := reader.itemContents view table previous variant common.metadata
      { common with
        restricted := common.restricted || variant.isUrl
        resources :=
          if variant.isUrl && common.resources.isEmpty then [reader.linkOf view table contents]
          else common.resources
        metadata := withDescription (reader.textOf? (view table "description").propertyBytes)
          previous common.metadata
        kind := .item contents } := by
  unfold itemObject asLink linkOf
  cases variant.isUrl <;> simp

/-- The properties of items that are decoded. -/
def decodedItem (created : Variant) : List Bytes :=
  [(view table "mimetype").propertyBytes, (view table "serviceID").propertyBytes,
    (view table "description").propertyBytes] ++
    if created.isUrl then [(view table "protocol").propertyBytes] else []

theorem under_link (mimeType : String) (object : Object) :
    (reader.link (some table) mimeType object).under view =
      reader.checked [(view table "protocol").propertyBytes]
        (reader.asLink view table mimeType object) := by
  simp only [link, Reading.under_bind, under_text?, Reading.under_pure]
  rw [← List.append_nil [(view table "protocol").propertyBytes]]
  exact checked_bind reader _ _ _ _ _ rfl

theorem under_item (previous : Option Object) (contents : Item) (object : Object) :
    (reader.item previous (some table) contents object).under view =
      reader.checked (decodedItem view table contents.variant)
        (reader.itemObject view table previous contents.variant object) := by
  simp only [item, Reading.under_bind, under_text?]
  refine checked_bind reader [_] (_ :: _ :: _) _ _ _ ?_
  refine checked_bind reader [_] (_ :: _) _ _ _ ?_
  refine checked_bind reader [_] _ _ _ _ ?_
  cases purpose : reader.purpose <;>
    cases isUrl : contents.variant.isUrl <;>
    simp [under_int32, under_variant, under_link, itemObject, itemContents,
      trackNumberOf, purpose, isUrl]

/-- A container, as a table under a view describes it. -/
def containerObject (created : Container) (object : Object) : Object :=
  let updateId := (view table "updateID").propertyInt32 (-1)
  { object with
    kind := .container {
      updateId := if 0 ≤ updateId then updateId else created.updateId
      searchable := (view table "searchable").propertyFlag?.getD created.searchable } }

theorem under_container (contents : Container) (object : Object) :
    (container (some table) contents object).under view =
      .ok (containerObject view table contents object) := by
  simp only [container, Reading.under_bind, under_int32, under_flag, ok_bind, Reading.under_pure]
  rfl

/-! ## Objects -/

/-- The object of a kind that a table under a view describes, if what is decoded for
it is text. -/
def describedAs (previous : Option Object) (created : Kind) : Object :=
  let common := reader.commonObject view table previous (.ofKind created)
  match created with
  | .item contents => reader.itemObject view table previous contents.variant common
  | .container contents => containerObject view table contents common

/-- The properties that are decoded for an object of a kind, in the order in which
they are read. -/
def decodedFor (created : Kind) : List Bytes :=
  [(view table "title").propertyBytes, (view table "upnpclass").propertyBytes] ++
    decodedEntries (metadataBytes view table) MetadataKey.all ++
    match created with
    | .item contents => decodedItem view table contents.variant
    | .container _ => []

/-- The outcome of reading a table under a view. -/
def outcome (previous : Option Object) : Except Failure (Option Object) :=
  let requested := (view table "objectType").propertyInt32 (-1)
  if requested = -1 then .ok none
  else
    match Kind.ofType? requested with
    | none => .error (.invalidObjectType requested)
    | some created =>
      reader.checked (decodedFor view table created)
        (some (reader.describedAs view table previous created))

theorem under_object (previous : Option Object) :
    (reader.object previous (some table)).under view = reader.outcome view table previous := by
  rw [object, Reading.under_bind, under_int32, ok_bind, outcome]
  generalize (view table "objectType").propertyInt32 (-1) = requested
  split
  · rfl
  · unfold Object.create?
    cases Kind.ofType? requested with
    | none => rfl
    | some created =>
      simp only [Option.map_some, Reading.under_bind, under_common]
      refine checked_bind reader _ _ _ _ _ ?_
      cases created with
      | item contents =>
        simp only [Object.ofKind, Reading.under_map, under_item]
        exact checked_map reader _ _ _
      | container contents =>
        simp only [Object.ofKind, Reading.under_map, under_container]
        rfl

end Reader

end MediaImport.Exchange
