import MediaImport.Proofs.Exchange.ShownTable

/-!
# The object that an untouched table describes

A script that hands back the table it was given describes the object it was made
from, with a few differences.  They are spelled out here in terms of the object
alone: `Object.handedBack` when the reader still has the object, and
`Object.recovered` when it has the table only.

Two things take a detour.  The track number goes out as metadata and comes back
from there, so what counts is the text that scripts see (`Object.trackText`), and
the integer at its front.  The description of an item is metadata too, but a second
path brings it back from the previous object, even when it is empty.
-/

namespace MediaImport.Media

open MediaImport.Exchange

namespace MetadataKey

/-- Whether metadata under a key are read back from scripts. -/
def isRecognised (key : String) : Bool :=
  all.any fun symbol => symbol.text == key

theorem isRecognised_iff (key : String) : isRecognised key = true ↔ key ∈ all.map Symbol.text := by
  simp [isRecognised]

end MetadataKey

namespace Object

/-- The track number as scripts see it: the one of the item itself if it is positive,
and otherwise whatever the metadata say. -/
def trackText (object : Object) : String :=
  let written := object.metadata[MetadataKey.trackNumber]?.getD ""
  match object.item? with
  | some contents =>
    if 0 < contents.trackNumber then toString contents.trackNumber.toInt else written
  | none => written

/-- The integer at the front of the track number that scripts see, if it is
positive, and otherwise zero. -/
def leadingTrack (object : Object) : Int32 :=
  let leading := (Text.Integer.leading? object.trackText).getD 0
  if 0 < leading then leading else 0

/-- The metadata that come back: the recognised entries that are not empty, and the
track number if it is positive.  An empty description may be kept. -/
def metadataBack (object : Object) (keepsEmptyDescription : Bool) : TextMap :=
  let entries := object.metadata.filter fun key text =>
    MetadataKey.isRecognised key && key != MetadataKey.trackNumber &&
      (text != "" || keepsEmptyDescription && key == MetadataKey.description)
  if 0 < object.leadingTrack then
    entries.insert MetadataKey.trackNumber object.trackText
  else entries

/-- The kind that comes back. -/
def kindBack (object : Object) : Kind :=
  match object.kind with
  | .container contents => .container { contents with updateId := max contents.updateId 0 }
  | .item contents => .item { contents with trackNumber := object.leadingTrack }

/-- The resource that a link gets if it has no other: by plain HTTP, with the type of
its contents, or a star for an unknown one. -/
def plainLink (object : Object) : Resource where
  handler := 0
  attributes := (∅ : TextMap).insert "protocolInfo" <|
    let mimeType := (object.item?.map Item.mimeType).getD ""
    "http-get:*:" ++ (if mimeType = "" then "*" else mimeType) ++ ":*"

/-- What comes back of an object from its own table, when the object is still at
hand. -/
def handedBack (object : Object) : Object :=
  { object with
    isVirtual := true
    refId := noId
    sizeOnDisk := min object.sizeOnDisk 9223372036854775807
    restricted := object.restricted || object.kind.isUrl
    resources :=
      if object.kind.isUrl && object.resources.isEmpty then [object.plainLink]
      else object.resources
    metadata := object.metadataBack object.item?.isSome
    kind := object.kindBack }

/-- What comes back of an object from its own table alone. -/
def recovered (object : Object) : Object where
  id := object.id
  parentId := object.parentId
  refId := noId
  title := object.title
  upnpClass := object.upnpClass
  restricted := object.restricted || object.kind.isUrl
  isVirtual := true
  location := object.location
  mtime := max object.mtime 0
  sizeOnDisk := min object.sizeOnDisk 9223372036854775807
  metadata := object.metadataBack false
  auxiliary := ∅
  resources := if object.kind.isUrl then [object.plainLink] else []
  flags := 0
  kind := object.kindBack

end Object

end MediaImport.Media

namespace MediaImport.Exchange

open MediaImport.Media MediaImport.Script

/-! ## Texts -/

namespace Reader

/-- The reader of texts in their internal form. -/
def internal : Reader where
  purpose := .layout
  charset := .utf8

theorem ofConversions_layout (conversions : Conversions) :
    ofConversions .layout conversions = internal := rfl

@[simp]
theorem reread_internal (text : String) : internal.charset.reread text = text := rfl

variable (reader : Reader)

@[simp]
theorem fault?_ofString (text : String) : reader.fault? (Bytes.ofString text) = none := by
  simp [fault?]

@[simp]
theorem textOf?_ofString (text : String) :
    reader.textOf? (Bytes.ofString text) =
      if text = "" then none else some (reader.charset.reread text) := by
  simp [textOf?, Except.toOption]

/-- Texts that are decoded are never refused. -/
theorem checked_texts {α : Type} (decoded : List Bytes) (value : α)
    (texts : ∀ contents ∈ decoded, ∃ text, contents = Bytes.ofString text) :
    reader.checked decoded value = .ok value := by
  have faultless : decoded.findSome? reader.fault? = none := by
    rw [List.findSome?_eq_none_iff]
    intro contents member
    obtain ⟨text, rfl⟩ := texts contents member
    exact reader.fault?_ofString text
  rw [checked, faultless]

/-! ## Metadata -/

theorem getElem?_metadataWith (entries : String → Bytes) (keys : List Symbol)
    (metadata : TextMap) (key : String) :
    (reader.metadataWith entries keys metadata)[key]? =
      if key ∈ keys.map Symbol.text then
        (reader.entryText key (entries key)).or metadata[key]?
      else metadata[key]? := by
  induction keys generalizing metadata with
  | nil => rfl
  | cons first rest ih =>
    rw [metadataWith_cons, ih]
    cases entry : reader.entryText first.text (entries first.text) with
    | none =>
      by_cases same : first.text = key
      · subst same
        simp [entry]
      · simp [Ne.symm same]
    | some text =>
      by_cases same : first.text = key
      · subst same
        simp [entry]
      · simp [Ne.symm same, Std.ExtTreeMap.getElem?_insert, same]

/-- Of the recognised keys, each has the entry that its bytes give. -/
theorem getElem?_metadataWith_all (entries : String → Bytes) (key : String) :
    (reader.metadataWith entries MetadataKey.all ∅)[key]? =
      if MetadataKey.isRecognised key then reader.entryText key (entries key) else none := by
  rw [getElem?_metadataWith, Std.ExtTreeMap.getElem?_empty, Option.or_none]
  by_cases recognised : key ∈ MetadataKey.all.map Symbol.text
  · rw [if_pos recognised, if_pos ((MetadataKey.isRecognised_iff key).mpr recognised)]
  · rw [if_neg recognised, if_neg (mt (MetadataKey.isRecognised_iff key).mp recognised)]

theorem entryText_ofString (key text : String) :
    reader.entryText key (Bytes.ofString text) =
      if text = "" then none
      else if key = MetadataKey.trackNumber then
        if 0 < (Text.Integer.leading? text).getD 0 then some text else none
      else some (reader.charset.reread text) := by
  simp [entryText, Except.toOption]

end Reader

namespace ObjectTable

theorem shownMetadata_getD (object : Object) (key : String) :
    (shownMetadata object)[key]?.getD "" =
      if key = MetadataKey.trackNumber then object.trackText
      else object.metadata[key]?.getD "" := by
  have unchanged : object.metadata[key]?.getD "" =
      if key = MetadataKey.trackNumber then object.metadata[MetadataKey.trackNumber]?.getD ""
      else object.metadata[key]?.getD "" := by
    by_cases track : key = MetadataKey.trackNumber <;> simp [track]
  unfold shownMetadata Object.trackText
  cases object.item? with
  | none => exact unchanged
  | some contents =>
    by_cases positive : 0 < contents.trackNumber
    · by_cases track : key = MetadataKey.trackNumber
      · simp [positive, track]
      · simp [positive, track, Std.ExtTreeMap.getElem?_insert, Ne.symm track]
    · simpa only [if_neg positive] using unchanged

end ObjectTable

end MediaImport.Exchange

namespace MediaImport.Media.Object

variable (object : Object)

theorem leadingTrack_pos_iff :
    0 < object.leadingTrack ↔ 0 < (Text.Integer.leading? object.trackText).getD 0 := by
  by_cases positive : 0 < (Text.Integer.leading? object.trackText).getD 0
  · simp only [leadingTrack, if_pos positive]
  · simp [leadingTrack, positive]

theorem getElem?_metadataBack (keepsEmptyDescription : Bool) (key : String) :
    (object.metadataBack keepsEmptyDescription)[key]? =
      if key = MetadataKey.trackNumber then
        if 0 < object.leadingTrack then some object.trackText else none
      else if MetadataKey.isRecognised key then
        object.metadata[key]?.filter fun text =>
          text != "" || keepsEmptyDescription && key == MetadataKey.description
      else none := by
  have others : key ≠ MetadataKey.trackNumber →
      (object.metadata[key]?.filter fun text =>
        MetadataKey.isRecognised key && key != MetadataKey.trackNumber &&
          (text != "" || keepsEmptyDescription && key == MetadataKey.description)) =
      if MetadataKey.isRecognised key then
        object.metadata[key]?.filter fun text =>
          text != "" || keepsEmptyDescription && key == MetadataKey.description
      else none := by
    intro other
    have differs : (key != MetadataKey.trackNumber) = true := bne_iff_ne.mpr other
    cases MetadataKey.isRecognised key <;> simp [differs]
  unfold metadataBack
  by_cases track : key = MetadataKey.trackNumber
  · by_cases positive : 0 < object.leadingTrack
    · simp [positive, track]
    · rw [if_pos track, if_neg positive, if_neg positive]
      exact (Std.ExtTreeMap.getElem?_filter' ..).trans (by simp [track])
  · rw [if_neg track, ← others track]
    by_cases positive : 0 < object.leadingTrack
    · rw [if_pos positive, Std.ExtTreeMap.getElem?_insert, if_neg (by simp [Ne.symm track])]
      exact Std.ExtTreeMap.getElem?_filter' ..
    · rw [if_neg positive]
      exact Std.ExtTreeMap.getElem?_filter' ..

end MediaImport.Media.Object

namespace MediaImport.Exchange.Reader

open MediaImport.Media MediaImport.Script

theorem metadataWith_shown (object : Object) (entries : String → Bytes)
    (shown : ∀ key, entries key =
      Bytes.ofString ((ObjectTable.shownMetadata object)[key]?.getD "")) :
    internal.metadataWith entries MetadataKey.all ∅ = object.metadataBack false := by
  apply Std.ExtTreeMap.ext_getElem?
  intro key
  rw [getElem?_metadataWith_all, shown, entryText_ofString, reread_internal,
    ObjectTable.shownMetadata_getD, Object.getElem?_metadataBack]
  by_cases track : key = MetadataKey.trackNumber
  · have recognised : MetadataKey.isRecognised key = true := by
      rw [track]
      decide
    rw [if_pos recognised, if_pos track, if_pos track, if_pos track]
    by_cases positive : 0 < object.leadingTrack
    · have leading := object.leadingTrack_pos_iff.mp positive
      have present : object.trackText ≠ "" := by
        intro empty
        rw [empty] at leading
        exact absurd leading (by decide)
      rw [if_neg present, if_pos leading, if_pos positive]
    · rw [if_neg (mt object.leadingTrack_pos_iff.mpr positive), if_neg positive, ite_self]
  · rw [if_neg track, if_neg track, if_neg track]
    cases MetadataKey.isRecognised key with
    | false => rfl
    | true =>
      cases object.metadata[key]? with
      | none => rfl
      | some text => by_cases empty : text = "" <;> simp [empty, Option.filter]

/-- A description stands in the metadata if it is given, or the previous object has one. -/
theorem getElem?_withDescription (given : Option String) (previous : Option Object)
    (metadata : TextMap) (key : String) :
    (withDescription given previous metadata)[key]? =
      if key = MetadataKey.description then
        (given <|> previous.bind (·.metadata[MetadataKey.description]?)).or metadata[key]?
      else metadata[key]? := by
  unfold withDescription
  cases given <|> previous.bind (·.metadata[MetadataKey.description]?) with
  | none => rw [Option.none_or, ite_self]
  | some text =>
    rw [Std.ExtTreeMap.getElem?_insert, Option.some_or]
    by_cases same : key = MetadataKey.description
    · simp [same]
    · simp [same, Ne.symm same]

/-- The metadata of an item get a description from the previous object, even an empty
one. -/
theorem withDescription_previous (object : Object) :
    withDescription none (some object) (object.metadataBack false) =
      object.metadataBack true := by
  have recognised : MetadataKey.isRecognised MetadataKey.description = true := by decide
  have notTrack : MetadataKey.description ≠ MetadataKey.trackNumber := by decide
  apply Std.ExtTreeMap.ext_getElem?
  intro key
  rw [getElem?_withDescription, Object.getElem?_metadataBack, Object.getElem?_metadataBack]
  by_cases same : key = MetadataKey.description
  · subst same
    rw [if_pos rfl, if_neg notTrack, if_neg notTrack, if_pos recognised, if_pos recognised]
    cases described : object.metadata[MetadataKey.description]? <;>
      simp [described, Option.filter]
  · have differs : (key == MetadataKey.description) = false := beq_eq_false_iff_ne.mpr same
    rw [if_neg same, differs]
    rfl

end MediaImport.Exchange.Reader

/-! ## Kinds -/

namespace MediaImport.Media

/-- The empty variant that the type of an item names. -/
def Variant.emptied : Variant → Variant
  | .active _ => .active {}
  | other => other

/-- The empty kind that the type of an object names. -/
def Kind.emptied : Kind → Kind
  | .container _ => .container {}
  | .item contents => .item { variant := contents.variant.emptied }

theorem Variant.ofType?_typeBits (variant : Variant) :
    ofType? variant.typeBits = some variant.emptied := by
  cases variant with
  | plain => decide
  | active command =>
    change ofType? 6 = some (.active {})
    decide
  | externalUrl => decide
  | internalUrl => decide

theorem Variant.has_typeBits_container (variant : Variant) :
    ObjectType.has variant.typeBits ObjectType.container = false := by
  cases variant with
  | active command =>
    change ObjectType.has 6 ObjectType.container = false
    decide
  | _ => decide

theorem Kind.ofType?_typeBits (kind : Kind) : ofType? kind.typeBits = some kind.emptied := by
  cases kind with
  | container contents =>
    change ofType? 1 = some (.container {})
    decide
  | item contents =>
    change ofType? contents.variant.typeBits = _
    rw [ofType?, contents.variant.has_typeBits_container, contents.variant.ofType?_typeBits]
    rfl

theorem Kind.typeBits_ne (kind : Kind) : kind.typeBits ≠ -1 := by
  cases kind with
  | container contents => simp [typeBits]
  | item contents =>
    cases variant : contents.variant <;> simp [typeBits, variant, Variant.typeBits]

@[simp]
theorem Variant.isUrl_emptied (variant : Variant) : variant.emptied.isUrl = variant.isUrl := by
  cases variant <;> rfl

end MediaImport.Media
