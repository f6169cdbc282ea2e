import MediaImport.Proofs.Exchange.ReturnedObject

/-!
# Reading a table that nobody touched

Each part of the reading is followed over a table that still shows an object: what all
kinds of object have, what a container has, what an item has, and what makes an item a
link.  A property that the table leaves out is taken from the previous object, and that
gives the same as the property would have given if the previous object is the one that is
shown.

Together the parts describe `Object.handedBack` with a previous object and
`Object.recovered` without one, and all texts that are decoded on the way are texts, so
nothing is refused.
-/

namespace MediaImport.Exchange.Reader

open MediaImport.Media MediaImport.Script ObjectTable

variable {object : Object} {view : Nat → String → Value} {table : Nat}

theorem metadataBytes_shows (shows : Shows view table (ofObject object)) (key : String) :
    metadataBytes view table key = Bytes.ofString ((shownMetadata object)[key]?.getD "") := by
  obtain ⟨id, nested, entries⟩ := shows.metadata
  rw [metadataBytes, nested]
  change (view id key).propertyBytes = _
  rw [entries]
  change (textIn (shownMetadata object) key).propertyBytes = _
  unfold textIn
  cases (shownMetadata object)[key]? <;> simp

theorem decodedFor_shows (shows : Shows view table (ofObject object)) :
    ∀ contents ∈ decodedFor view table object.kind.emptied, ∃ text,
      contents = Bytes.ofString text := by
  have described : view table "description" = .nil := by
    rw [shows.property _ (by decide), property_eq_nil _ _ (by decide) (by decide)]
  have protocol : view table "protocol" = .nil := by
    rw [shows.property _ (by decide), property_eq_nil _ _ (by decide) (by decide)]
  have entries : ∀ contents ∈ decodedEntries (metadataBytes view table) MetadataKey.all,
      ∃ text, contents = Bytes.ofString text := by
    intro contents member
    obtain ⟨key, -, rfl⟩ := List.mem_map.mp member
    exact ⟨_, metadataBytes_shows shows key.text⟩
  have common : ∀ contents ∈ [(view table "title").propertyBytes,
      (view table "upnpclass").propertyBytes], ∃ text, contents = Bytes.ofString text := by
    rw [shows.property _ (by decide), shows.property _ (by decide), property_title,
      property_upnpClass]
    simp
  have own : ∀ item, object.kind = .item item →
      ∀ contents ∈ decodedItem view table item.variant.emptied, ∃ text,
        contents = Bytes.ofString text := by
    intro item isItem
    rw [decodedItem, described, protocol, shows.property _ (by decide),
      shows.property _ (by decide), property_mimeType _ item isItem,
      property_serviceId _ item isItem]
    have nothing : ∃ text, ([] : Bytes) = Bytes.ofString text := ⟨"", rfl⟩
    split <;> simp
  intro contents member
  rcases List.mem_append.mp member with first | last
  · rcases List.mem_append.mp first with top | entry
    · exact common contents top
    · exact entries contents entry
  · cases isItem : object.kind with
    | item item =>
      rw [isItem] at last
      exact own item isItem contents last
    | container container =>
      rw [isItem] at last
      cases last

theorem naturalOf?_int (number : Int64) :
    naturalOf? (.int number) = if 0 ≤ number then some number else none := by
  rw [naturalOf?, Value.propertyInt64_int]

theorem naturalOf?_sizeValue (size : UInt64) :
    (naturalOf? (sizeValue size)).map Int64.toUInt64 = some (min size 9223372036854775807) := by
  rw [naturalOf?, if_pos (Value.sizeValue_nonneg size (-1)), Option.map_some,
    Value.sizeValue_toUInt64]
  rfl

/-- The greater of a number and zero. -/
theorem greater_zero {α : Type} [LE α] [DecidableLE α] [OfNat α 0] [Std.IsLinearOrder α]
    (number : α) : (if number ≤ 0 then 0 else number) = if 0 ≤ number then number else 0 := by
  by_cases negative : number ≤ 0
  · by_cases zero : 0 ≤ number
    · rw [if_pos negative, if_pos zero, Std.le_antisymm negative zero]
    · rw [if_pos negative, if_neg zero]
  · rw [if_neg negative, if_pos ((Std.le_total ..).resolve_left negative)]

theorem getD_unless {α : Type} (absent : Prop) [Decidable absent] (value fallback : α) :
    (if absent then none else some value).getD fallback = if absent then fallback else value := by
  split <;> rfl

theorem getD_if {α : Type} (present : Prop) [Decidable present] (value fallback : α) :
    (if present then some value else none).getD fallback =
      if present then value else fallback := by
  split <;> rfl

/-- What all kinds of object have, over an object from which missing properties are
taken. -/
theorem commonObject_shows (shows : Shows view table (ofObject object))
    (previous : Option Object) (created : Kind) :
    internal.commonObject view table previous (.ofKind created) =
      let before := previous.getD (.ofKind created)
      { id := object.id
        parentId := object.parentId
        refId := noId
        title := if object.title = "" then before.title else object.title
        upnpClass := if object.upnpClass = "" then before.upnpClass else object.upnpClass
        restricted := object.restricted
        isVirtual := true
        location := if object.location.isEmpty then before.location else object.location
        mtime := if 0 ≤ object.mtime then object.mtime else before.mtime
        sizeOnDisk := min object.sizeOnDisk 9223372036854775807
        metadata := object.metadataBack false
        auxiliary := before.auxiliary
        resources := before.resources
        flags := before.flags
        kind := created } := by
  have refId : view table "refID" = .nil := by
    rw [shows.property _ (by decide), property_eq_nil _ _ (by decide) (by decide)]
  unfold commonObject
  rw [refId, metadataWith_shown object _ (metadataBytes_shows shows)]
  simp only [shows.property "id" (by decide), shows.property "parentID" (by decide),
    shows.property "title" (by decide), shows.property "upnpclass" (by decide),
    shows.property "location" (by decide), shows.property "mtime" (by decide),
    shows.property "sizeOnDisk" (by decide), shows.property "restricted" (by decide),
    property_id, property_parentId, property_title, property_upnpClass, property_location,
    property_mtime, property_sizeOnDisk, property_restricted, textOf?_ofString,
    reread_internal, naturalOf?_int, naturalOf?_sizeValue, Value.propertyFlag?_ofFlag,
    getD_unless, getD_if]
  rfl

theorem containerObject_shows (shows : Shows view table (ofObject object))
    (contents : Container) (isContainer : object.kind = .container contents) (common : Object) :
    containerObject view table {} common = { common with kind := object.kindBack } := by
  unfold containerObject Object.kindBack
  simp only [shows.property "updateID" (by decide), shows.property "searchable" (by decide),
    property_updateId _ contents isContainer, property_searchable _ contents isContainer,
    Value.propertyInt32_ofInt32, Value.propertyFlag?_ofFlag, isContainer, Option.getD_some]
  rw [show max contents.updateId 0 = _ from greater_zero contents.updateId]

theorem command?_of_active (contents : Item) (isItem : object.kind = .item contents)
    (command : Command) (isActive : contents.variant = .active command) :
    object.command? = some command := by
  obtain ⟨mimeType, serviceId, trackNumber, variant⟩ := contents
  cases isActive
  simp [Object.command?, isItem]

/-- A text that comes back as it is, where a missing one is taken from the same text or
from nothing. -/
theorem text_orElse (text before : String) (same : before = text ∨ before = "") :
    (if text = "" then before else text) = text := by
  by_cases empty : text = ""
  · rcases same with own | nothing
    · rw [if_pos empty, own]
    · rw [if_pos empty, nothing, empty]
  · rw [if_neg empty]

/-- One object is the same item as another, their track numbers aside. -/
def IsSameItem (source object : Object) : Prop :=
  ∃ number, source.item? =
    object.item?.map fun contents => { contents with trackNumber := number }

theorem IsSameItem.refl (object : Object) : IsSameItem object object := by
  cases kind : object.kind with
  | container contents => exact ⟨0, by simp [Object.item?, Kind.item?, kind]⟩
  | item contents => exact ⟨contents.trackNumber, by simp [Object.item?, Kind.item?, kind]⟩

theorem IsSameItem.kind_eq {source : Object} (same : IsSameItem source object) {contents : Item}
    (isItem : object.kind = .item contents) :
    ∃ number, source.kind = .item { contents with trackNumber := number } := by
  obtain ⟨number, known⟩ := same
  refine ⟨number, ?_⟩
  simp only [Object.item?, isItem, Kind.item?, Option.map_some] at known
  cases kind : source.kind with
  | container other =>
    rw [kind] at known
    cases known
  | item other =>
    rw [kind] at known
    exact congrArg Kind.item (Option.some.inj known)

/-- The command of an active item comes back, whether the item is still at hand or
not. -/
theorem variantOf_shows (shows : Shows view table (ofObject object)) (contents : Item)
    (isItem : object.kind = .item contents) (previous : Option Object)
    (same : ∀ source ∈ previous, IsSameItem source object) :
    variantOf view table previous contents.variant.emptied = contents.variant := by
  cases variant : contents.variant with
  | active command =>
    have before : (previous.bind Object.command?).getD {} = command ∨
        (previous.bind Object.command?).getD {} = {} := by
      cases previous with
      | none => exact .inr rfl
      | some source =>
        left
        obtain ⟨number, kind⟩ := (same source rfl).kind_eq isItem
        rw [Option.bind_some, command?_of_active _ kind command variant]
        rfl
    have action : Utf8.lossy (view table "action").propertyBytes = command.action := by
      rw [shows.property _ (by decide), property_action _ contents isItem command variant,
        Utf8.lossy_ofString]
    have state : Utf8.lossy (view table "state").propertyBytes = command.state := by
      rw [shows.property _ (by decide), property_state _ contents isItem command variant,
        Utf8.lossy_ofString]
    simp only [Variant.emptied, variantOf, looseTextOf?, Value.propertyText, action, state,
      getD_unless, String.isEmpty_iff]
    rw [text_orElse command.action _ (before.imp (congrArg _) (congrArg _)),
      text_orElse command.state _ (before.imp (congrArg _) (congrArg _))]
  | _ => rfl

theorem trackNumber_metadataBack (keepsEmptyDescription : Bool) :
    trackNumber (object.metadataBack keepsEmptyDescription) = object.leadingTrack := by
  rw [trackNumber, Object.getElem?_metadataBack, if_pos rfl]
  by_cases positive : 0 < object.leadingTrack
  · have leading := object.leadingTrack_pos_iff.mp positive
    simp [Object.leadingTrack, leading]
  · have leading := mt object.leadingTrack_pos_iff.mpr positive
    simp [Object.leadingTrack, leading]

theorem itemContents_shows (shows : Shows view table (ofObject object)) (contents : Item)
    (isItem : object.kind = .item contents) (previous : Option Object)
    (same : ∀ source ∈ previous, IsSameItem source object) :
    internal.itemContents view table previous contents.variant.emptied
      (object.metadataBack false) = { contents with trackNumber := object.leadingTrack } := by
  have before : (∃ number, (previous.bind Object.item?).getD {} =
        { contents with trackNumber := number }) ∨
      (previous.bind Object.item?).getD {} = {} := by
    cases previous with
    | none => exact .inr rfl
    | some source =>
      left
      obtain ⟨number, kind⟩ := (same source rfl).kind_eq isItem
      exact ⟨number, by simp [Object.item?, Kind.item?, kind]⟩
  have mimeType : ((previous.bind Object.item?).getD {}).mimeType = contents.mimeType ∨
      ((previous.bind Object.item?).getD {}).mimeType = "" :=
    before.imp (fun ⟨_, own⟩ => by rw [own]) (fun nothing => by rw [nothing])
  have serviceId : ((previous.bind Object.item?).getD {}).serviceId = contents.serviceId ∨
      ((previous.bind Object.item?).getD {}).serviceId = "" :=
    before.imp (fun ⟨_, own⟩ => by rw [own]) (fun nothing => by rw [nothing])
  unfold itemContents
  simp only [shows.property "mimetype" (by decide), shows.property "serviceID" (by decide),
    property_mimeType _ contents isItem, property_serviceId _ contents isItem,
    textOf?_ofString, reread_internal, getD_unless,
    variantOf_shows shows contents isItem previous same]
  rw [text_orElse contents.mimeType _ mimeType, text_orElse contents.serviceId _ serviceId]
  change { contents with trackNumber := trackNumber _ } = _
  rw [trackNumber_metadataBack]

theorem linkOf_shows (shows : Shows view table (ofObject object)) (contents : Item)
    (isItem : object.kind = .item contents) (number : Int32) :
    internal.linkOf view table { contents with trackNumber := number } = object.plainLink := by
  have protocol : view table "protocol" = .nil := by
    rw [shows.property _ (by decide), property_eq_nil _ _ (by decide) (by decide)]
  rw [linkOf_eq, protocol]
  simp only [Object.plainLink, Object.item?, isItem, Kind.item?, Option.map_some, Option.getD_some]
  rfl

theorem described_container (shows : Shows view table (ofObject object))
    (contents : Container) (isContainer : object.kind = .container contents)
    (previous : Option Object) :
    internal.describedAs view table previous object.kind.emptied =
      { internal.commonObject view table previous (.ofKind object.kind.emptied) with
        kind := object.kindBack } := by
  rw [isContainer]
  exact containerObject_shows shows contents isContainer _

theorem described_item (shows : Shows view table (ofObject object)) (contents : Item)
    (isItem : object.kind = .item contents) (previous : Option Object)
    (same : ∀ source ∈ previous, IsSameItem source object) :
    internal.describedAs view table previous object.kind.emptied =
      let common := internal.commonObject view table previous (.ofKind object.kind.emptied)
      { common with
        restricted := common.restricted || object.kind.isUrl
        resources :=
          if object.kind.isUrl && common.resources.isEmpty then [object.plainLink]
          else common.resources
        metadata := withDescription none previous common.metadata
        kind := object.kindBack } := by
  have described : view table "description" = .nil := by
    rw [shows.property _ (by decide), property_eq_nil _ _ (by decide) (by decide)]
  have read := itemContents_shows shows contents isItem previous same
  have metadata :
      (internal.commonObject view table previous (.ofKind object.kind.emptied)).metadata =
        object.metadataBack false := by
    rw [commonObject_shows shows]
  have noText : internal.textOf? (Value.propertyBytes .nil) = none := rfl
  unfold describedAs
  simp only [isItem, Kind.emptied] at metadata ⊢
  simp only [itemObject_eq, metadata, described, noText, read, Variant.isUrl_emptied,
    linkOf_shows shows contents isItem, Object.kindBack, isItem]
  rfl

theorem location_orElse (location before : Bytes) (same : before = location ∨ before = []) :
    (if location.isEmpty then before else location) = location := by
  cases location with
  | nil => rcases same with own | nothing <;> simp [*]
  | cons first rest => rfl

/-- A table that nobody touched, read over the object that it shows. -/
theorem describedAs_handedBack (shows : Shows view table (ofObject object)) :
    internal.describedAs view table (some object) object.kind.emptied = object.handedBack := by
  have common : internal.commonObject view table (some object) (.ofKind object.kind.emptied) =
      { object with
        refId := noId
        isVirtual := true
        sizeOnDisk := min object.sizeOnDisk 9223372036854775807
        metadata := object.metadataBack false
        kind := object.kind.emptied } := by
    rw [commonObject_shows shows]
    simp
  cases kind : object.kind with
  | container contents =>
    rw [← kind, described_container shows contents kind, common]
    simp [Object.handedBack, kind, Kind.isUrl, Object.item?, Kind.item?]
  | item contents =>
    rw [← kind, described_item shows contents kind _ (fun source own =>
      Option.some.inj own ▸ .refl object), common]
    simp only [withDescription_previous]
    simp [Object.handedBack, Object.item?, kind, Kind.item?]

/-- A table that nobody touched, read without the object that it shows. -/
theorem describedAs_recovered (shows : Shows view table (ofObject object)) :
    internal.describedAs view table none object.kind.emptied = object.recovered := by
  have mtime : max object.mtime 0 = if 0 ≤ object.mtime then object.mtime else 0 :=
    greater_zero object.mtime
  have common : internal.commonObject view table none (.ofKind object.kind.emptied) =
      { object with
        refId := noId
        isVirtual := true
        mtime := max object.mtime 0
        sizeOnDisk := min object.sizeOnDisk 9223372036854775807
        metadata := object.metadataBack false
        auxiliary := ∅
        resources := []
        flags := 0
        kind := object.kind.emptied } := by
    rw [commonObject_shows shows, mtime]
    simp only [Option.getD_none, Object.ofKind, text_orElse _ "" (.inr rfl),
      location_orElse _ [] (.inr rfl)]
  cases kind : object.kind with
  | container contents =>
    rw [← kind, described_container shows contents kind, common]
    simp [Object.recovered, kind, Kind.isUrl]
  | item contents =>
    rw [← kind, described_item shows contents kind _ (fun source own => by cases own), common]
    simp [Object.recovered, withDescription]

/-! ## The outcome -/

/-- A table that nobody touched is never refused. -/
theorem outcome_shows {reader : Reader} (shows : Shows view table (ofObject object))
    (previous : Option Object) :
    reader.outcome view table previous =
      .ok (some (reader.describedAs view table previous object.kind.emptied)) := by
  have requested : (view table "objectType").propertyInt32 (-1) = object.kind.typeBits := by
    rw [shows.property _ (by decide), property_objectType, Value.propertyInt32_ofInt32]
    rfl
  unfold outcome
  simp only [requested, if_neg object.kind.typeBits_ne, Kind.ofType?_typeBits]
  exact reader.checked_texts _ _ (decodedFor_shows shows)

end MediaImport.Exchange.Reader
