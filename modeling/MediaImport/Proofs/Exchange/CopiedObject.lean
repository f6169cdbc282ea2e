import MediaImport.Proofs.Exchange.RepeatedPasses
import MediaImport.Proofs.Importer.TrackNumbers

/-!
# Objects that were read from a table alone

A copy is read from a table with no object before it, and is shown at once in new tables.
Whatever a script has put into the table, the object that is shown is tidy: its numbers are
not negative, its metadata are recognised and not empty, and its track number is the one at
the front of its track.  So to read the new tables, and to show what was read, changes
hardly anything: `Object.IsTidy.ofObject_recovered` says that the second tables differ from
the first in the resource of a link alone.

An original that is still at hand repairs what its copy has lost, the flags, auxiliary texts
and resources.  What is left of the detour through a copy is that the track of an item is
written from its number, as a second pass does (`Reader.describedAs_copy`).
-/

namespace MediaImport.Media

open MediaImport.Exchange

namespace Object

/-- An object is as reading it from a table alone makes it. -/
structure IsTidy (object : Object) : Prop where
  mtime : 0 ≤ object.mtime
  flags : object.flags = 0
  auxiliary : object.auxiliary = ∅
  restricted : object.kind.isUrl = true → object.restricted = true
  recognised : ∀ key ∈ object.metadata, MetadataKey.isRecognised key = true
  present : ∀ key : String, object.metadata[key]? ≠ some ""
  /-- A positive integer stands at the front of the track. -/
  track : ∀ text, object.metadata[MetadataKey.trackNumber]? = some text →
    0 < (Text.Integer.leading? text).getD 0
  number : ∀ contents, object.kind = .item contents →
    contents.trackNumber = Reader.trackNumber object.metadata
  updateId : ∀ contents, object.kind = .container contents → 0 ≤ contents.updateId

variable {object : Object}

/-! ## What is shown of the metadata -/

theorem getElem?_shownMetadata_of_ne (object : Object) {key : String}
    (other : key ≠ MetadataKey.trackNumber) :
    (ObjectTable.shownMetadata object)[key]? = object.metadata[key]? := by
  unfold ObjectTable.shownMetadata
  split
  · split
    · simp [Std.ExtTreeMap.getElem?_insert, Ne.symm other]
    · rfl
  · rfl

theorem shownMetadata_of_container {contents : Container}
    (isContainer : object.kind = .container contents) :
    ObjectTable.shownMetadata object = object.metadata := by
  simp [ObjectTable.shownMetadata, item?, Kind.item?, isContainer]

theorem shownMetadata_of_item {contents : Item} (isItem : object.kind = .item contents) :
    ObjectTable.shownMetadata object =
      if 0 < contents.trackNumber then
        object.metadata.insert MetadataKey.trackNumber (toString contents.trackNumber.toInt)
      else object.metadata := by
  simp [ObjectTable.shownMetadata, item?, Kind.item?, isItem]

theorem trackText_of_container {contents : Container}
    (isContainer : object.kind = .container contents) :
    object.trackText = object.metadata[MetadataKey.trackNumber]?.getD "" := by
  simp [trackText, item?, Kind.item?, isContainer]

theorem trackText_of_item {contents : Item} (isItem : object.kind = .item contents) :
    object.trackText =
      if 0 < contents.trackNumber then toString contents.trackNumber.toInt
      else object.metadata[MetadataKey.trackNumber]?.getD "" := by
  simp [trackText, item?, Kind.item?, isItem]

/-! ## What comes back, by the kind of object -/

theorem kindBack_of_container {contents : Container}
    (isContainer : object.kind = .container contents) :
    object.kindBack = .container { contents with updateId := max contents.updateId 0 } := by
  rw [kindBack, isContainer]

theorem kindBack_of_item {contents : Item} (isItem : object.kind = .item contents) :
    object.kindBack = .item { contents with trackNumber := object.leadingTrack } := by
  rw [kindBack, isItem]

theorem kind_recovered (object : Object) : object.recovered.kind = object.kindBack := by
  rw [recovered]

theorem kind_handedBack (object : Object) : object.handedBack.kind = object.kindBack := by
  rw [handedBack]

theorem metadata_recovered (object : Object) :
    object.recovered.metadata = object.metadataBack false := by
  rw [recovered]

/-- An empty description of an item is not lost on the way back, and one of a container is. -/
theorem metadata_handedBack (object : Object) :
    object.handedBack.metadata = object.metadataBack object.item?.isSome := by
  rw [handedBack]

theorem leading_entry (metadata : TextMap) :
    (Text.Integer.leading? (metadata[MetadataKey.trackNumber]?.getD "")).getD 0 =
      Reader.trackNumber metadata := by
  unfold Reader.trackNumber
  cases metadata[MetadataKey.trackNumber]? with
  | none => rfl
  | some text => rfl

theorem getElem?_metadataBack_trackNumber (object : Object) (keepsEmptyDescription : Bool) :
    (object.metadataBack keepsEmptyDescription)[MetadataKey.trackNumber]? =
      if 0 < object.leadingTrack then some object.trackText else none := by
  rw [getElem?_metadataBack]
  exact if_pos rfl

theorem max_zero_nonneg {α : Type} [LE α] [DecidableLE α] [OfNat α 0] [Std.IsLinearOrder α]
    (number : α) :
    let _ : Max α := maxOfLe
    0 ≤ max number 0 := by
  intro _
  have greater : max number 0 = if 0 ≤ number then number else 0 := Reader.greater_zero number
  rw [greater]
  split
  · assumption
  · exact Std.le_refl 0

namespace IsTidy

/-- A track counts exactly if there is one. -/
theorem trackNumber_pos_iff (tidy : object.IsTidy) :
    0 < Reader.trackNumber object.metadata ↔
      object.metadata[MetadataKey.trackNumber]? ≠ none := by
  unfold Reader.trackNumber
  cases entry : object.metadata[MetadataKey.trackNumber]? with
  | none => simp
  | some text => simpa using tidy.track text entry

theorem trackNumber_eq_zero (tidy : object.IsTidy)
    (missing : ¬0 < Reader.trackNumber object.metadata) :
    Reader.trackNumber object.metadata = 0 ∧
      object.metadata[MetadataKey.trackNumber]? = none := by
  have none := not_not.mp (mt tidy.trackNumber_pos_iff.mpr missing)
  refine ⟨?_, none⟩
  rw [Reader.trackNumber, none]
  rfl

/-- What stands at the front of the track that scripts see is the number itself. -/
theorem leading_trackText (tidy : object.IsTidy) :
    (Text.Integer.leading? object.trackText).getD 0 = Reader.trackNumber object.metadata := by
  cases kind : object.kind with
  | container contents => rw [trackText_of_container kind, leading_entry]
  | item contents =>
    rw [trackText_of_item kind, tidy.number contents kind]
    split
    · rw [Text.Integer.leading?_toString_toInt, Option.getD_some]
    · exact leading_entry object.metadata

theorem leadingTrack (tidy : object.IsTidy) :
    object.leadingTrack = Reader.trackNumber object.metadata := by
  unfold Object.leadingTrack
  dsimp only
  rw [tidy.leading_trackText]
  split
  · rfl
  · next missing => exact (tidy.trackNumber_eq_zero missing).1.symm

theorem kindBack (tidy : object.IsTidy) : object.kindBack = object.kind := by
  unfold Object.kindBack
  cases kind : object.kind with
  | container contents =>
    have least : max contents.updateId 0 = contents.updateId :=
      (Reader.greater_zero contents.updateId).trans (if_pos (tidy.updateId contents kind))
    simp only [least]
  | item contents => simp only [tidy.leadingTrack, ← tidy.number contents kind]

/-- The metadata that come back are those that are shown. -/
theorem metadataBack (tidy : object.IsTidy) :
    object.metadataBack false = ObjectTable.shownMetadata object := by
  apply Std.ExtTreeMap.ext_getElem?
  intro key
  by_cases track : key = MetadataKey.trackNumber
  · subst track
    rw [getElem?_metadataBack_trackNumber, tidy.leadingTrack]
    by_cases positive : 0 < Reader.trackNumber object.metadata
    · rw [if_pos positive]
      cases kind : object.kind with
      | container contents =>
        obtain ⟨text, entry⟩ :=
          Option.ne_none_iff_exists'.mp (tidy.trackNumber_pos_iff.mp positive)
        rw [shownMetadata_of_container kind, trackText_of_container kind, entry]
        rfl
      | item contents =>
        rw [shownMetadata_of_item kind, trackText_of_item kind, tidy.number contents kind,
          if_pos positive, if_pos positive, Std.ExtTreeMap.getElem?_insert_self]
    · have missing := (tidy.trackNumber_eq_zero positive).2
      rw [if_neg positive]
      cases kind : object.kind with
      | container contents => rw [shownMetadata_of_container kind, missing]
      | item contents =>
        rw [shownMetadata_of_item kind, tidy.number contents kind, if_neg positive, missing]
  · rw [getElem?_metadataBack, if_neg track, getElem?_shownMetadata_of_ne object track]
    cases entry : object.metadata[key]? with
    | none => simp
    | some text =>
      have recognised := tidy.recognised key (Std.ExtTreeMap.mem_iff_isSome_getElem?.mpr (by
        rw [entry]
        rfl))
      have present : text ≠ "" := by
        rintro rfl
        exact tidy.present key entry
      simp [recognised, present, Option.filter]

/-- A tidy object comes back as it is, but for what is not shown of it and the resource of a
link. -/
theorem recovered (tidy : object.IsTidy) :
    object.recovered = { object with
      refId := noId
      isVirtual := true
      sizeOnDisk := min object.sizeOnDisk 9223372036854775807
      metadata := ObjectTable.shownMetadata object
      resources := if object.kind.isUrl then [object.plainLink] else [] } := by
  have mtime : max object.mtime 0 = object.mtime :=
    (Reader.greater_zero object.mtime).trans (if_pos tidy.mtime)
  have restricted : (object.restricted || object.kind.isUrl) = object.restricted := by
    cases link : object.kind.isUrl with
    | false => exact Bool.or_false _
    | true => rw [tidy.restricted link]; rfl
  simp only [Object.recovered, mtime, restricted, tidy.metadataBack, tidy.kindBack,
    tidy.auxiliary, tidy.flags]

/-- The tables of a tidy object that was read again are the tables of the object, but for the
resource of a link. -/
theorem ofObject_recovered (tidy : object.IsTidy) :
    ObjectTable.ofObject object.recovered = { ObjectTable.ofObject object with
      resource := if object.kind.isUrl then object.plainLink.attributes else ∅ } := by
  have size : ObjectTable.sizeValue (min object.sizeOnDisk 9223372036854775807) =
      ObjectTable.sizeValue object.sizeOnDisk := by
    unfold ObjectTable.sizeValue
    rw [show (min object.sizeOnDisk 9223372036854775807).toNat = _ from
      Script.Value.toNat_min_sizeLimit object.sizeOnDisk, Nat.min_assoc, Nat.min_self]
  have metadata : ObjectTable.shownMetadata object.recovered =
      ObjectTable.shownMetadata object := by
    rw [tidy.recovered]
    exact object.shownMetadata_shownMetadata
  have resource : (ObjectTable.ofObject object.recovered).resource =
      if object.kind.isUrl then object.plainLink.attributes else ∅ := by
    cases link : object.kind.isUrl <;> simp [ObjectTable.ofObject, Object.recovered, link]
  have properties : (ObjectTable.ofObject object.recovered).properties =
      (ObjectTable.ofObject object).properties := by
    rw [tidy.recovered]
    simp only [ObjectTable.ofObject, size]
    rfl
  have auxiliary : object.recovered.auxiliary = object.auxiliary := tidy.auxiliary.symm
  rw [← resource]
  exact congr (congr (congr (congrArg ObjectTable.mk properties) metadata) auxiliary) rfl

end IsTidy

theorem trackNumber_of_kindBack (object : Object) {contents : Item}
    (isItem : object.kindBack = .item contents) : contents.trackNumber = object.leadingTrack := by
  cases kind : object.kind with
  | container own =>
    rw [kindBack_of_container kind] at isItem
    cases isItem
  | item own =>
    rw [kindBack_of_item kind] at isItem
    cases isItem
    rfl

theorem updateId_of_kindBack (object : Object) {contents : Container}
    (isContainer : object.kindBack = .container contents) : 0 ≤ contents.updateId := by
  cases kind : object.kind with
  | container own =>
    rw [kindBack_of_container kind] at isContainer
    cases isContainer
    exact max_zero_nonneg _
  | item own =>
    rw [kindBack_of_item kind] at isContainer
    cases isContainer

/-- What comes back of an object from its table alone is tidy. -/
theorem isTidy_recovered (object : Object) : object.recovered.IsTidy where
  mtime := max_zero_nonneg object.mtime
  flags := rfl
  auxiliary := rfl
  restricted := by
    intro link
    have isUrl : object.kind.isUrl = true := object.isUrl_kindBack ▸ link
    simp [recovered, isUrl]
  recognised := by
    intro key member
    rw [Std.ExtTreeMap.mem_iff_isSome_getElem?, metadata_recovered,
      getElem?_metadataBack] at member
    by_contra other
    have notTrack : key ≠ MetadataKey.trackNumber := by
      rintro rfl
      exact other (by decide)
    simp [notTrack, other] at member
  present := by
    intro key empty
    rw [metadata_recovered, getElem?_metadataBack] at empty
    split at empty
    · split at empty
      · next positive =>
        have leading := object.leadingTrack_pos_iff.mp positive
        rw [Option.some.inj empty] at leading
        exact absurd leading (by decide)
      · cases empty
    · split at empty
      · obtain ⟨-, kept⟩ := Option.filter_eq_some_iff.mp empty
        simp at kept
      · cases empty
  track := by
    intro text entry
    rw [metadata_recovered, getElem?_metadataBack_trackNumber] at entry
    split at entry
    · next positive =>
      rw [← Option.some.inj entry]
      exact object.leadingTrack_pos_iff.mp positive
    · cases entry
  number := by
    intro contents isItem
    rw [object.trackNumber_of_kindBack isItem, metadata_recovered,
      Reader.trackNumber_metadataBack]
  updateId := fun contents isContainer => object.updateId_of_kindBack isContainer

/-! ## Items that are numbered by their track -/

/-- An item has no number of its own, but there is one at the front of its track. -/
def IsNumberedByTrack (object : Object) : Prop :=
  ∃ contents, object.kind = .item contents ∧ contents.trackNumber ≤ 0 ∧
    0 < Reader.trackNumber object.metadata

theorem shownMetadata_handedBack (object : Object) {contents : Item}
    (isItem : object.kind = .item contents) :
    ObjectTable.shownMetadata object.handedBack =
      if 0 < object.leadingTrack then
        object.handedBack.metadata.insert MetadataKey.trackNumber
          (toString object.leadingTrack.toInt)
      else object.handedBack.metadata := by
  rw [shownMetadata_of_item (object.kind_handedBack.trans (kindBack_of_item isItem))]

theorem IsNumberedByTrack.shownMetadata_handedBack (numbered : object.IsNumberedByTrack) :
    object.handedBack.metadata[MetadataKey.trackNumber]? =
        object.metadata[MetadataKey.trackNumber]? ∧
      ObjectTable.shownMetadata object.handedBack =
        object.handedBack.metadata.insert MetadataKey.trackNumber
          (toString (Reader.trackNumber object.metadata).toInt) := by
  obtain ⟨contents, isItem, missing, positive⟩ := numbered
  have text : object.trackText = object.metadata[MetadataKey.trackNumber]?.getD "" := by
    rw [trackText_of_item isItem, if_neg (Std.not_lt.mpr missing)]
  have leading : object.leadingTrack = Reader.trackNumber object.metadata := by
    simp only [leadingTrack, text, leading_entry, if_pos positive]
  constructor
  · rw [getElem?_handedBack_trackNumber, leading, if_pos positive, text]
    cases entry : object.metadata[MetadataKey.trackNumber]? with
    | none =>
      rw [Reader.trackNumber, entry] at positive
      exact absurd positive (by decide)
    | some text => rfl
  · rw [object.shownMetadata_handedBack isItem, leading, if_pos positive]

/-- The track of any other object is shown as it came back. -/
theorem shownMetadata_handedBack_of_not (unnumbered : ¬object.IsNumberedByTrack) :
    ObjectTable.shownMetadata object.handedBack = object.handedBack.metadata := by
  cases kind : object.kind with
  | container contents =>
    rw [shownMetadata_of_container (object.kind_handedBack.trans (kindBack_of_container kind))]
  | item contents =>
    rw [object.shownMetadata_handedBack kind]
    split
    · next positive =>
      -- A positive track that is not in the text can only be the number of the item itself.
      have own : 0 < contents.trackNumber := by
        by_contra missing
        have text : object.trackText = object.metadata[MetadataKey.trackNumber]?.getD "" := by
          rw [trackText_of_item kind, if_neg missing]
        have leading := object.leadingTrack_pos_iff.mp positive
        rw [text, leading_entry] at leading
        exact unnumbered ⟨contents, kind, Std.not_lt.mp missing, leading⟩
      have text : object.trackText = toString contents.trackNumber.toInt := by
        rw [trackText_of_item kind, if_pos own]
      have leading : object.leadingTrack = contents.trackNumber := by
        simp only [leadingTrack, text, Text.Integer.leading?_toString_toInt, Option.getD_some,
          if_pos own]
      have entry := object.getElem?_handedBack_trackNumber
      rw [if_pos positive, text] at entry
      rw [leading]
      apply Std.ExtTreeMap.ext_getElem?
      intro key
      rw [Std.ExtTreeMap.getElem?_insert]
      by_cases track : MetadataKey.trackNumber = key
      · subst track
        simp [entry]
      · simp [track]
    · rfl

end Object

end MediaImport.Media

namespace MediaImport.Exchange.Reader

open MediaImport.Media MediaImport.Script ObjectTable

variable {view : Nat → String → Value} {table : Nat}

/-! ## Reading without an object before -/

theorem naturalOf?_nonneg (value : Value) : 0 ≤ (naturalOf? value).getD 0 := by
  unfold naturalOf?
  split
  · assumption
  · decide

theorem mtime_describedAs_nonneg (reader : Reader) (created : Kind) :
    0 ≤ (reader.describedAs view table none created).mtime := by
  cases created with
  | container contents => exact naturalOf?_nonneg _
  | item contents =>
    rw [describedAs, itemObject_eq]
    exact naturalOf?_nonneg _

/-- Whatever stands in a table, the object that it describes alone is tidy. -/
theorem isTidy_of_under {object : Object}
    (came : (internal.object none (some table)).under view = .ok (some object)) :
    object.IsTidy := by
  have wellFormed := internal.isWellFormed_of_under view table none came
  rw [under_object] at came
  obtain ⟨created, -, -, rfl⟩ := internal.outcome_eq_ok view table came
  exact {
    mtime := internal.mtime_describedAs_nonneg created
    flags := wellFormed.flags
    auxiliary := wellFormed.auxiliary
    restricted := wellFormed.restricted
    recognised := fun key member =>
      (MetadataKey.isRecognised_iff key).mpr (wellFormed.recognised key member)
    present := fun key empty => nomatch (wellFormed.empty key empty).2.2
    track := by
      intro text entry
      have told := internal.numberText?_describedAs view table none created
      rw [Object.numberText?, entry] at told
      exact (Text.Integer.leading?_pos_iff text).mpr
        ((internal.entryText_trackNumber_eq_some_iff _ text).mp told.symm).2
    number := fun contents isItem => internal.trackNumber_describedAs view table none rfl isItem
    updateId := by
      intro contents isContainer
      exact wellFormed.updateId contents (by rw [Object.container?, isContainer]; rfl) }

/-- The protocol that a table names for a link: plain HTTP if it names none. -/
def protocolOf (view : Nat → String → Value) (table : Nat) : String :=
  (internal.textOf? (view table "protocol").propertyBytes).getD defaultProtocol

theorem eq_protocolOf {protocol : String}
    (names : internal.NamesProtocol (view table "protocol").propertyBytes protocol) :
    protocol = protocolOf view table := by
  unfold NamesProtocol at names
  unfold protocolOf textOf?
  by_cases empty : (view table "protocol").propertyBytes = []
  · rw [if_pos empty] at names
    rw [names, if_pos (List.isEmpty_iff.mpr empty)]
    rfl
  · rw [if_neg empty] at names
    rw [names, if_neg (by simpa using empty)]
    rfl

theorem isSome_item?_of_isUrl {object : Object} (link : object.kind.isUrl = true) :
    ∃ item, object.item? = some item := by
  unfold Object.item?
  cases kind : object.kind with
  | item contents => exact ⟨contents, rfl⟩
  | container contents =>
    rw [kind] at link
    cases link

/-- A link that was read alone has one resource, with the protocol that its table names. -/
theorem resource_of_link {object : Object} {item : Item}
    (came : (internal.object none (some table)).under view = .ok (some object))
    (link : object.kind.isUrl = true) (isItem : object.item? = some item) :
    (ofObject object).resource =
      (linkResource item.mimeType (protocolOf view table)).attributes := by
  have resources := (internal.isWellFormed_of_under view table none came).resources
  rw [if_pos ⟨link, rfl⟩] at resources
  obtain ⟨own, protocol, isOwn, names, resources⟩ := resources
  obtain rfl := Option.some.inj (isItem.symm.trans isOwn)
  simp only [ofObject, resources, linkResource, protocolInfo, String.isEmpty_iff,
    ← eq_protocolOf names]
  rfl

theorem resource_of_other {object : Object}
    (came : (internal.object none (some table)).under view = .ok (some object))
    (other : ¬object.kind.isUrl = true) : (ofObject object).resource = ∅ := by
  have resources := (internal.isWellFormed_of_under view table none came).resources
  rw [if_neg (fun both => other both.1)] at resources
  simp only [ofObject, resources]
  rfl

theorem plainLink_eq {object : Object} {item : Item} (isItem : object.item? = some item) :
    object.plainLink = linkResource item.mimeType defaultProtocol := by
  simp only [Object.plainLink, isItem, Option.map_some, Option.getD_some, linkResource,
    protocolInfo, String.isEmpty_iff]
  rfl

theorem attributes_linkResource_inj {mimeType protocol other : String}
    (same : (linkResource mimeType protocol).attributes =
      (linkResource mimeType other).attributes) : protocol = other := by
  have texts := congrArg (fun attributes : TextMap => attributes[ResourceKey.protocolInfo]?) same
  simpa only [linkResource, Std.ExtTreeMap.getElem?_insert_self, Option.some.injEq, protocolInfo,
    String.append_left_inj] using texts

/-! ## Copying a copy -/

/-- What comes back of a table that shows an object. -/
theorem under_shown_alone {object : Object} (shows : Shows view table (ofObject object)) :
    (internal.object none (some table)).under view = .ok (some object.recovered) := by
  rw [under_object, outcome_shows shows, describedAs_recovered shows]

/-- The second copy of a table shows what the first one does, unless the table names another
protocol than plain HTTP for a link. -/
theorem ofObject_recovered_of_under {object : Object}
    (came : (internal.object none (some table)).under view = .ok (some object))
    (plain : object.kind.isUrl = true → protocolOf view table = defaultProtocol) :
    ofObject object.recovered = ofObject object := by
  have tidy := isTidy_of_under came
  rw [tidy.ofObject_recovered]
  by_cases link : object.kind.isUrl = true
  · obtain ⟨item, isItem⟩ := isSome_item?_of_isUrl link
    rw [if_pos link, plainLink_eq isItem, ← plain link, ← resource_of_link came link isItem]
  · rw [if_neg link, ← resource_of_other came link]

/-- If it does, the resource is named anew, and nothing else is changed. -/
theorem ofObject_recovered_of_link {object : Object} {item : Item}
    (came : (internal.object none (some table)).under view = .ok (some object))
    (link : object.kind.isUrl = true) (isItem : object.item? = some item) :
    ofObject object.recovered = { ofObject object with
      resource := (linkResource item.mimeType defaultProtocol).attributes } := by
  rw [(isTidy_of_under came).ofObject_recovered, if_pos link, plainLink_eq isItem]

/-! ## A copy, read over its original -/

theorem withDescription_insert (given : Option String) (previous : Option Object)
    (metadata : TextMap) {key : String} (other : key ≠ MetadataKey.description) (text : String) :
    withDescription given previous (metadata.insert key text) =
      (withDescription given previous metadata).insert key text := by
  apply Std.ExtTreeMap.ext_getElem?
  intro wanted
  rw [getElem?_withDescription, Std.ExtTreeMap.getElem?_insert, Std.ExtTreeMap.getElem?_insert,
    getElem?_withDescription]
  by_cases same : wanted = MetadataKey.description
  · subst same
    have differs : compare key MetadataKey.description ≠ .eq := by simpa using other
    rw [if_pos rfl, if_pos rfl, if_neg differs, if_neg differs]
  · rw [if_neg same, if_neg same]

theorem plainLink_recovered (object : Object) : object.recovered.plainLink = object.plainLink := by
  have sameType : object.recovered.item?.map Item.mimeType = object.item?.map Item.mimeType := by
    rw [Object.item?, Object.kind_recovered, Object.kindBack, Object.item?]
    cases object.kind <;> rfl
  simp only [Object.plainLink, sameType]

theorem emptied_kindBack (object : Object) : object.kindBack.emptied = object.kind.emptied := by
  unfold Object.kindBack
  cases object.kind <;> rfl

/-- An item and what comes back of it differ in the track number alone. -/
theorem isSameItem_recovered (object : Object) : IsSameItem object object.recovered := by
  cases kind : object.kind with
  | container contents =>
    refine ⟨0, ?_⟩
    rw [Object.item?, Object.item?, Object.kind_recovered, Object.kindBack_of_container kind, kind]
    rfl
  | item contents =>
    refine ⟨contents.trackNumber, ?_⟩
    rw [Object.item?, Object.item?, Object.kind_recovered, Object.kindBack_of_item kind, kind]
    rfl

/-- The track that a copy shows is the one that is shown of the original when it has come
back. -/
theorem withDescription_shownMetadata_recovered (object : Object) {contents : Item}
    (isItem : object.kind = .item contents) :
    withDescription none (some object) (shownMetadata object.recovered) =
      shownMetadata object.handedBack := by
  have notDescription : MetadataKey.trackNumber ≠ MetadataKey.description := by decide
  have kindBack := Object.kindBack_of_item isItem
  have keepsDescription : object.item?.isSome = true := by
    rw [Object.item?, isItem]
    rfl
  rw [Object.shownMetadata_of_item (object.kind_recovered.trans kindBack),
    Object.shownMetadata_of_item (object.kind_handedBack.trans kindBack),
    Object.metadata_recovered, Object.metadata_handedBack, keepsDescription]
  dsimp only
  split
  · rw [withDescription_insert _ _ _ notDescription, withDescription_previous]
  · rw [withDescription_previous]

theorem commonObject_copy {object : Object} (shows : Shows view table (ofObject object.recovered))
    (created : Kind) :
    internal.commonObject view table (some object) (.ofKind created) =
      { object with
        refId := noId
        isVirtual := true
        restricted := object.restricted || object.kind.isUrl
        mtime := max object.mtime 0
        sizeOnDisk := min object.sizeOnDisk 9223372036854775807
        metadata := shownMetadata object.recovered
        kind := created } := by
  have nonneg : 0 ≤ object.recovered.mtime := object.isTidy_recovered.mtime
  have size : min object.recovered.sizeOnDisk 9223372036854775807 = object.recovered.sizeOnDisk :=
    Object.min_min_self object.sizeOnDisk 9223372036854775807
  have title : object.recovered.title = object.title := rfl
  have upnpClass : object.recovered.upnpClass = object.upnpClass := rfl
  have location : object.recovered.location = object.location := rfl
  rw [commonObject_shows shows, object.isTidy_recovered.metadataBack, size]
  simp only [title, upnpClass, location, if_pos nonneg, Option.getD_some, ite_self]
  rfl

/-- The table of a copy, read over the original: the detour writes the track from its number,
and no negative time survives it. -/
theorem describedAs_copy {object : Object}
    (shows : Shows view table (ofObject object.recovered)) :
    internal.describedAs view table (some object) object.kind.emptied =
      { object.handedBack with
        mtime := max object.mtime 0
        metadata := shownMetadata object.handedBack } := by
  have known := object.kind_recovered
  have kindBack : object.recovered.kindBack = object.kindBack :=
    object.isTidy_recovered.kindBack.trans known
  have emptied : object.recovered.kind.emptied = object.kind.emptied := by
    rw [known, emptied_kindBack]
  have isUrl : object.recovered.kind.isUrl = object.kind.isUrl := by
    rw [known, Object.isUrl_kindBack]
  rw [← emptied]
  cases kind : object.kind with
  | container contents =>
    have isContainer := Object.kindBack_of_container kind
    have losesDescription : object.item?.isSome = false := by
      rw [Object.item?, kind]
      rfl
    have metadata : shownMetadata object.recovered = shownMetadata object.handedBack := by
      rw [Object.shownMetadata_of_container (known.trans isContainer),
        Object.shownMetadata_of_container (object.kind_handedBack.trans isContainer),
        Object.metadata_recovered, Object.metadata_handedBack, losesDescription]
    rw [described_container shows _ (known.trans isContainer), commonObject_copy shows,
      kindBack, metadata]
    simp [Object.handedBack, kind, Kind.isUrl]
  | item contents =>
    have isItem := Object.kindBack_of_item kind
    rw [described_item shows _ (known.trans isItem) _ (fun source own =>
      Option.some.inj own ▸ isSameItem_recovered object), commonObject_copy shows, kindBack,
      isUrl, plainLink_recovered]
    simp only [withDescription_shownMetadata_recovered object kind]
    simp [Object.handedBack]

end MediaImport.Exchange.Reader
