import MediaImport.Media.ObjectJson
import MediaImport.Proofs.Json.Records
import MediaImport.Proofs.Number.WholeNumbers
import MediaImport.Proofs.Text.Utf8

/-!
# Stored forms of objects

The form of an object is read back as the object, whatever the order of its fields.  A field of
the object or of an item that is left out is read as its default, and members that are no fields
make no difference.  What cannot be left out is the kind and its tag, the fields of a container,
the command of an active item and the fields of a resource: without them there is no object.

The proof goes from the inside out.  For each part of an object there is one equation about any
form of it, which says whether the part can be read and what is read.
-/

namespace MediaImport.Media

open Json (Mixes kept optional?_kept required?_kept shows_ofMembers)

/-! ## Texts by name -/

theorem ofList_toList (map : TextMap) : Std.ExtTreeMap.ofList map.toList = map := by
  refine Std.ExtTreeMap.ext_getElem? fun name => ?_
  cases found : map[name]? with
  | some value =>
    exact Std.ExtTreeMap.getElem?_ofList_of_mem (Std.ReflCmp.compare_self)
      Std.ExtTreeMap.distinct_keys_toList
      (Std.ExtTreeMap.mem_toList_iff_getElem?_eq_some.mpr found)
  | none =>
    refine Std.ExtTreeMap.getElem?_ofList_of_contains_eq_false ?_
    simpa [Std.ExtTreeMap.mem_toList_iff_getElem?_eq_some] using found

/-- Texts by name are read back. -/
theorem asTextMap?_textMapJson (map : TextMap) : (textMapJson map).asTextMap? = some map := by
  have texts (entries : List (String × String)) (start : TextMap) :
      (entries.map fun entry => (some entry.1, Json.ofString entry.2)).foldlM (fun map member => do
        let name ← member.1
        let value ← member.2.asText?
        return map.insert name value) start =
      some (entries.foldl (fun map entry => map.insert entry.1 entry.2) start) := by
    induction entries generalizing start with
    | nil => rfl
    | cons first rest ih => exact ih _
  simp only [textMapJson, Json.ofMembers, Json.asTextMap?, List.map_map, Function.comp_def]
  rw [texts map.toList ∅, ← Std.ExtTreeMap.ofList_eq_foldl, ofList_toList]

/-! ## What is left out -/

/-- What is left out of the form of an object: fields of the object itself, of its kind, of the
variant of an item, and of each resource, by its position. -/
structure Omission where
  fields : List String := []
  ofKind : List String := []
  ofVariant : List String := []
  ofResource : Nat → List String := fun _ => []

/-- Whether a field that has to be there is left out. -/
def lacks (required omitted : List String) : Bool :=
  required.any omitted.contains

def Resource.required : List String :=
  ["handler_id", "attributes"]

def Variant.required : Variant → List String
  | .active _ => ["variant", "action", "state"]
  | _ => ["variant"]

def Kind.required : Kind → List String
  | .container _ => ["type", "update_id", "searchable"]
  | .item _ => ["type"]

/-- Whether what is left out leaves no kind.  A variant matters as long as it is there. -/
def Omission.breaksKind (omission : Omission) (kind : Kind) : Bool :=
  lacks kind.required omission.ofKind ||
    kind.item?.any fun contents =>
      !omission.ofKind.contains "variant" && lacks contents.variant.required omission.ofVariant

/-- Whether what is left out leaves no object.  Resources matter as long as they are there. -/
def Omission.breaks (omission : Omission) (object : Object) : Bool :=
  omission.fields.contains "kind" || omission.breaksKind object.kind ||
    !omission.fields.contains "resources" &&
      object.resources.zipIdx.any fun entry => lacks Resource.required (omission.ofResource entry.2)

/-- An item with the default of each field that is left out. -/
def Item.lacking (omitted : List String) (contents : Item) : Item where
  mimeType := if "mime_type" ∈ omitted then "" else contents.mimeType
  serviceId := if "service_id" ∈ omitted then "" else contents.serviceId
  trackNumber := if "track_number" ∈ omitted then 0 else contents.trackNumber
  variant := if "variant" ∈ omitted then .plain else contents.variant

/-- A kind with the default of each field that is left out; the fields of a container have none. -/
def Kind.lacking (omitted : List String) : Kind → Kind
  | .container contents => .container contents
  | .item contents => .item (contents.lacking omitted)

/-- An object with the default of each field that is left out. -/
def Object.lacking (omission : Omission) (object : Object) : Object where
  id := if "id" ∈ omission.fields then noId else object.id
  parentId := if "parent_id" ∈ omission.fields then noId else object.parentId
  refId := if "ref_id" ∈ omission.fields then noId else object.refId
  title := if "title" ∈ omission.fields then "" else object.title
  upnpClass := if "class" ∈ omission.fields then "" else object.upnpClass
  restricted := if "restricted" ∈ omission.fields then false else object.restricted
  isVirtual := if "is_virtual" ∈ omission.fields then false else object.isVirtual
  location := if "location" ∈ omission.fields then [] else object.location
  mtime := if "mtime" ∈ omission.fields then 0 else object.mtime
  sizeOnDisk := if "size_on_disk" ∈ omission.fields then 0 else object.sizeOnDisk
  metadata := if "metadata" ∈ omission.fields then ∅ else object.metadata
  auxiliary := if "aux_data" ∈ omission.fields then ∅ else object.auxiliary
  resources := if "resources" ∈ omission.fields then [] else object.resources
  flags := if "flags" ∈ omission.fields then 0 else object.flags
  kind := object.kind.lacking omission.ofKind

/-! ## Forms -/

/-- A tree is a record without some of its fields, in any order. -/
def Trims (record : Json) (omitted : List String) (json : Json) : Prop :=
  Mixes (record.without omitted) [] json

/-- A tree is the form of a kind, up to the order of the fields and what is left out. -/
def Kind.HasForm (omission : Omission) (json : Json) : Kind → Prop
  | .container contents => Trims (Kind.container contents).toJson omission.ofKind json
  | .item contents => ∃ variant, Trims contents.variant.toJson omission.ofVariant variant ∧
      Trims ((Kind.item contents).toJson.withMember "variant" variant) omission.ofKind json

/-- Trees are the forms of resources at some positions. -/
abbrev Resource.HaveForms (omission : Omission) (entries : List (Resource × Nat))
    (forms : List Json) : Prop :=
  List.Forall₂ (fun entry form => Trims entry.1.toJson (omission.ofResource entry.2) form) entries
    forms

/-- A tree is the form of an object, up to the order of the fields, what is left out, and further
members that are no fields. -/
def Object.HasForm (object : Object) (omission : Omission) (extra : List (String × Json))
    (json : Json) : Prop :=
  ∃ written kind resources, object.toJson? = some written ∧ object.kind.HasForm omission kind ∧
    Resource.HaveForms omission object.resources.zipIdx resources ∧
    (∀ member ∈ extra, member.1 ∉ Object.fieldNames) ∧
    Mixes (((written.withMember "kind" kind).withMember "resources" (.array resources)).without
      omission.fields) extra json

/-! ## Reading forms -/

theorem asText?_ofString (text : String) : (Json.ofString text).asText? = some text :=
  rfl

theorem asBool?_bool (value : Bool) : (Json.bool value).asBool? = some value :=
  rfl

theorem Trims.shows {fields : List (String × Json)} {omitted : List String} {json : Json}
    (trims : Trims (.ofMembers fields) omitted json) (apart : (fields.map Prod.fst).Nodup)
    (names : List String) :
    json.Shows names fun name => (List.lookup name fields).bind (kept omitted name) :=
  ((shows_ofMembers apart names).without omitted).mixes (by simp) trims

/-- Of two fields that have to be there, neither may be left out. -/
theorem both_required {α β γ : Type} (build : α → β → γ) (one other : String) (left : α) (right : β)
    (omitted : List String) :
    ((if one ∈ omitted then none else some left).bind fun left =>
      (if other ∈ omitted then none else some right).bind fun right => some (build left right)) =
    if lacks [one, other] omitted then none else some (build left right) := by
  by_cases first : one ∈ omitted
  · simp [lacks, first]
  · by_cases second : other ∈ omitted <;> simp [lacks, first, second]

theorem Resource.ofJson?_of_trims {resource : Resource} {omitted : List String} {json : Json}
    (trims : Trims resource.toJson omitted json) :
    Resource.ofJson? json = if lacks Resource.required omitted then none else some resource := by
  have shows := trims.shows (by simp) ["handler_id", "attributes"]
  rw [Resource.ofJson?, shows.fields?]
  refine Eq.trans ?_ (both_required Resource.mk "handler_id" "attributes" resource.handler
    resource.attributes omitted)
  simp [required?_kept, Json.asInt32?_ofInt, asTextMap?_textMapJson, List.lookup_cons]

/-- What follows a tag that is found is no text or number or list. -/
theorem isBare_of_shows {json : Json} {names : List String} {table : String → Option Json}
    (shows : json.Shows names table) : isBare json = true := by
  obtain ⟨members, rfl, -⟩ := shows
  rfl

/-- A variant without contents is its tag. -/
theorem Variant.ofJson?_of_bare {variant : Variant} {tag : String} {omitted : List String}
    {json : Json} (trims : Trims variant.toJson omitted json)
    (written : variant.toJson = .ofMembers [("variant", .ofString tag)])
    (required : variant.required = ["variant"])
    (stands : ∀ contents : Json, isBare contents = true →
      json.untag? "variant" = some (.ofString tag, contents) →
        Variant.ofJson? json = some variant) :
    Variant.ofJson? json = if lacks variant.required omitted then none else some variant := by
  rw [written] at trims
  have shows := trims.shows (by simp) ["variant"]
  by_cases left : "variant" ∈ omitted
  · rw [Variant.ofJson?, shows.untag?_of_none (by simp [kept, left])]
    simp [lacks, required, left]
  · obtain ⟨rest, tagged, others⟩ := shows.untag? (by simp) (.ofString tag)
      (by simp [kept, left])
    rw [stands rest (isBare_of_shows others) tagged]
    simp [lacks, required, left]

theorem Command.ofJson?_of_shows (command : Command) (omitted : List String) {json : Json}
    {table : String → Option Json} (shows : json.Shows ["action", "state"] table)
    (action : table "action" = kept omitted "action" (.ofString command.action))
    (state : table "state" = kept omitted "state" (.ofString command.state)) :
    Command.ofJson? json = if lacks ["action", "state"] omitted then none else some command := by
  rw [Command.ofJson?, shows.fields?]
  refine Eq.trans ?_ (both_required Command.mk "action" "state" command.action command.state
    omitted)
  simp [action, state, required?_kept, asText?_ofString]

theorem Variant.ofJson?_of_trims {variant : Variant} {omitted : List String} {json : Json}
    (trims : Trims variant.toJson omitted json) :
    Variant.ofJson? json = if lacks variant.required omitted then none else some variant := by
  cases variant with
  | plain | externalUrl | internalUrl =>
    exact Variant.ofJson?_of_bare trims rfl rfl fun contents bare tagged => by
      simp [Variant.ofJson?, tagged, Variant.position?, bare]
  | active command =>
    have shows := trims.shows (by simp) ["variant", "action", "state"]
    by_cases left : "variant" ∈ omitted
    · rw [Variant.ofJson?, shows.untag?_of_none (by simp [kept, left, List.lookup_cons])]
      simp [lacks, Variant.required, left]
    · obtain ⟨rest, tagged, others⟩ := shows.untag? (by simp) (.ofString "active")
        (by simp [kept, left, List.lookup_cons])
      have contents := Command.ofJson?_of_shows command omitted others rfl rfl
      simp only [Variant.ofJson?, tagged, Variant.position?, contents, Option.bind_eq_bind,
        Option.bind_some]
      cases given : lacks ["action", "state"] omitted <;>
        simp_all [lacks, Variant.required]

theorem Container.ofJson?_of_shows (contents : Container) (omitted : List String) {json : Json}
    {table : String → Option Json} (shows : json.Shows ["update_id", "searchable"] table)
    (updateId : table "update_id" = kept omitted "update_id" (.ofInt contents.updateId.toInt))
    (searchable : table "searchable" = kept omitted "searchable" (.bool contents.searchable)) :
    Container.ofJson? json =
      if lacks ["update_id", "searchable"] omitted then none else some contents := by
  rw [Container.ofJson?, shows.fields?]
  refine Eq.trans ?_ (both_required Container.mk "update_id" "searchable" contents.updateId
    contents.searchable omitted)
  simp [updateId, searchable, required?_kept, Json.asInt32?_ofInt, asBool?_bool]

theorem Item.ofJson?_of_shows (contents : Item) (omitted : List String) {ofVariant : List String}
    {json variant : Json} {table : String → Option Json}
    (trims : Trims contents.variant.toJson ofVariant variant)
    (shows : json.Shows ["mime_type", "service_id", "track_number", "variant"] table)
    (mimeType : table "mime_type" = kept omitted "mime_type" (.ofString contents.mimeType))
    (serviceId : table "service_id" = kept omitted "service_id" (.ofString contents.serviceId))
    (track : table "track_number" =
      kept omitted "track_number" (.ofInt contents.trackNumber.toInt))
    (shown : table "variant" = kept omitted "variant" variant) :
    Item.ofJson? json =
      if !omitted.contains "variant" && lacks contents.variant.required ofVariant then none
      else some (contents.lacking omitted) := by
  rw [Item.ofJson?, shows.fields?]
  simp only [List.map, mimeType, serviceId, track, shown, optional?_kept, asText?_ofString,
    Json.asInt32?_ofInt, Json.ite_some_some, Option.bind_eq_bind, Option.bind_some,
    Variant.ofJson?_of_trims trims]
  by_cases left : "variant" ∈ omitted
  · simp [left, Item.lacking]
  · cases given : lacks contents.variant.required ofVariant <;> simp [left, Item.lacking]

/-! ## Kinds -/

theorem shallow_ofString (text : String) : Json.Shallow 0 (.ofString text) := by
  simp [Json.Shallow, Json.isReadable, Json.depth]

theorem shallow_bool (value : Bool) : Json.Shallow 0 (.bool value) := by
  simp [Json.Shallow, Json.isReadable, Json.depth]

theorem shallow_ofInt32 (number : Int32) : Json.Shallow 0 (.ofInt number.toInt) := by
  have low := number.le_toInt
  have high := number.toInt_lt
  obtain ⟨value, read, finite⟩ := Numeral.plain?_toString
    (show number.toInt.natAbs < 2 ^ 53 by omega)
  constructor
  · rw [Json.ofInt, Json.isReadable, Json.isRepresentable, read]
    exact finite
  · simp [Json.ofInt, Json.depth]

theorem Trims.everyMember {record json : Json} {omitted : List String} {Holds : Json → Prop}
    (trims : Trims record omitted json) (every : record.EveryMember Holds) :
    json.EveryMember Holds :=
  (every.without omitted).mixes (by simp) trims

theorem Variant.everyMember_toJson (variant : Variant) :
    variant.toJson.EveryMember (Json.Shallow 0) := by
  cases variant <;> exact Json.everyMember_ofMembers (by simp [shallow_ofString])

/-- The form of a kind can be read as a whole. -/
theorem Kind.isBuffered_of_hasForm {kind : Kind} {omission : Omission} {json : Json}
    (form : kind.HasForm omission json) : json.isBuffered 1 = true := by
  have scalar {json : Json} (flat : json.Shallow 0) : json.Shallow 1 := flat.mono (Nat.zero_le 1)
  have text (text : String) : (Json.ofString text).Shallow 1 := scalar (shallow_ofString text)
  suffices json.EveryMember (Json.Shallow 1) from this.shallow.isBuffered (by decide)
  cases kind with
  | container contents =>
    refine Trims.everyMember form (Json.everyMember_ofMembers ?_)
    simp [text, scalar (shallow_bool _), scalar (shallow_ofInt32 _)]
  | item contents =>
    obtain ⟨variant, inner, trims⟩ := form
    have whole : (Kind.item contents).toJson.EveryMember (Json.Shallow 1) :=
      Json.everyMember_ofMembers
        (by simp [text, scalar (shallow_ofInt32 _), contents.variant.everyMember_toJson.shallow])
    exact trims.everyMember
      (whole.withMember _ (inner.everyMember contents.variant.everyMember_toJson).shallow)

theorem Kind.ofJson?_of_hasForm {kind : Kind} {omission : Omission} {json : Json}
    (form : kind.HasForm omission json) :
    Kind.ofJson? json =
      if omission.breaksKind kind then none else some (kind.lacking omission.ofKind) := by
  have buffered := Kind.isBuffered_of_hasForm form
  cases kind with
  | container contents =>
    have shows := Trims.shows form (by simp) ["type", "update_id", "searchable"]
    by_cases left : "type" ∈ omission.ofKind
    · rw [Kind.ofJson?, shows.untag?_of_none (by simp [kept, left, List.lookup_cons])]
      simp [buffered, Omission.breaksKind, lacks, Kind.required, left]
    · obtain ⟨rest, tagged, others⟩ := shows.untag? (by simp) (.ofString "container")
        (by simp [kept, left, List.lookup_cons])
      have read := Container.ofJson?_of_shows contents omission.ofKind others rfl rfl
      simp only [Kind.ofJson?, buffered, tagged, read, asText?_ofString, Option.bind_eq_bind,
        Option.bind_some]
      cases given : lacks ["update_id", "searchable"] omission.ofKind <;>
        simp_all [lacks, Kind.required, Omission.breaksKind, Kind.lacking, Kind.item?]
  | item contents =>
    obtain ⟨variant, inner, trims⟩ := form
    have shows := (((shows_ofMembers (by simp) ["type", "mime_type", "service_id", "track_number",
      "variant"]).withMember "variant" variant).without omission.ofKind).mixes (by simp) trims
    by_cases left : "type" ∈ omission.ofKind
    · rw [Kind.ofJson?, shows.untag?_of_none (by simp [kept, left, List.lookup_cons])]
      simp [buffered, Omission.breaksKind, lacks, Kind.required, left]
    · obtain ⟨rest, tagged, others⟩ := shows.untag? (by simp) (.ofString "item")
        (by simp [kept, left, List.lookup_cons])
      have read := Item.ofJson?_of_shows contents omission.ofKind inner others rfl rfl rfl rfl
      have tags : lacks (Kind.item contents).required omission.ofKind = false := by
        simp [lacks, Kind.required, left]
      simp only [Kind.ofJson?, buffered, tagged, read, asText?_ofString, Option.bind_eq_bind,
        Option.bind_some, Omission.breaksKind, tags, Bool.false_or, Kind.item?, Option.any_some]
      cases !omission.ofKind.contains "variant" &&
        lacks contents.variant.required omission.ofVariant <;> rfl

/-! ## Objects -/

theorem Resource.ofJson?_of_forms {omission : Omission} {entries : List (Resource × Nat)}
    {forms : List Json} (trims : Resource.HaveForms omission entries forms) :
    (Json.array forms).asList? Resource.ofJson? =
      if entries.any fun entry => lacks Resource.required (omission.ofResource entry.2) then none
      else some (entries.map Prod.fst) := by
  rw [Json.asList?]
  induction trims with
  | nil => rfl
  | @cons entry form entries forms here there ih =>
    rw [List.mapM_cons, ih, Resource.ofJson?_of_trims here, List.any_cons]
    cases lacks Resource.required (omission.ofResource entry.2) with
    | true => rfl
    | false =>
      cases entries.any fun entry => lacks Resource.required (omission.ofResource entry.2) <;> rfl

/-- The location of a stored object is its text. -/
theorem Object.exists_location {object : Object} {written : Json}
    (stored : object.toJson? = some written) :
    ∃ location : String, written = object.jsonWith (.ofString location) ∧
      object.location = Bytes.ofString location := by
  unfold Object.toJson? at stored
  split at stored
  · next location decoded =>
    cases stored
    exact ⟨location, rfl, (Utf8.ofString_of_decodeText decoded).symm⟩
  · cases stored

theorem Object.ofJson?_of_hasForm {object : Object} {omission : Omission}
    {extra : List (String × Json)} {json : Json} (form : object.HasForm omission extra json) :
    Object.ofJson? json =
      if omission.breaks object then none else some (object.lacking omission) := by
  obtain ⟨written, kind, resources, stored, kindForm, resourceForms, unknown, mixes⟩ := form
  obtain ⟨location, rfl, located⟩ := Object.exists_location stored
  have shows := ((((shows_ofMembers (by simp) Object.fieldNames).withMember "kind" kind).withMember
    "resources" (.array resources)).without omission.fields).mixes unknown mixes
  let keeps := kept omission.fields
  have fields : json.fields? Object.fieldNames = some [
      keeps "id" (.ofInt object.id.toInt), keeps "parent_id" (.ofInt object.parentId.toInt),
      keeps "ref_id" (.ofInt object.refId.toInt), keeps "title" (.ofString object.title),
      keeps "class" (.ofString object.upnpClass), keeps "restricted" (.bool object.restricted),
      keeps "is_virtual" (.bool object.isVirtual), keeps "location" (.ofString location),
      keeps "mtime" (.ofInt object.mtime.toInt),
      keeps "size_on_disk" (.ofInt object.sizeOnDisk.toNat),
      keeps "metadata" (textMapJson object.metadata),
      keeps "aux_data" (textMapJson object.auxiliary), keeps "resources" (.array resources),
      keeps "flags" (.ofInt object.flags.toNat), keeps "kind" kind] :=
    shows.fields?
  rw [Object.ofJson?, fields, Option.bind_eq_bind, Option.bind_some]
  dsimp only
  simp only [keeps, optional?_kept, required?_kept, Json.asInt32?_ofInt, Json.asInt64?_ofInt,
    Json.asUInt32?_ofInt, Json.asUInt64?_ofInt, asText?_ofString, asBool?_bool,
    asTextMap?_textMapJson, Option.map_some, Json.ite_some_some, Option.bind_eq_bind,
    Option.bind_some, Resource.ofJson?_of_forms resourceForms, Kind.ofJson?_of_hasForm kindForm]
  -- What is left to compare is whether there are resources, and whether there is a kind.
  simp only [Omission.breaks, Object.lacking, located, List.zipIdx_map_fst, List.contains_eq_mem]
  by_cases noKind : "kind" ∈ omission.fields
  · simp only [noKind, if_true, Option.bind_none, Option.bind_fun_none, decide_true, Bool.true_or]
  · cases omission.breaksKind object.kind with
    | true => simp [noKind]
    | false =>
      by_cases noResources : "resources" ∈ omission.fields
      · simp [noKind, noResources]
      · cases object.resources.zipIdx.any fun entry =>
            lacks Resource.required (omission.ofResource entry.2) <;>
          simp [noKind, noResources]

/-! ## Writing forms -/

@[simp]
theorem isWritable_ofString (text : String) : (Json.ofString text).isWritable = true := by
  rw [Json.isWritable, Option.isSome_some]

@[simp]
theorem isWritable_ofInt (number : Int) : (Json.ofInt number).isWritable = true := by
  rw [Json.ofInt, Json.isWritable, Json.isNumeral_toString]

@[simp]
theorem isWritable_bool (value : Bool) : (Json.bool value).isWritable = true := by
  simp [Json.isWritable]

theorem isWritable_ofMembers {fields : List (String × Json)}
    (all : ∀ field ∈ fields, field.2.isWritable = true) :
    (Json.ofMembers fields).isWritable = true :=
  (Json.everyMember_ofMembers all).isWritable

@[simp]
theorem isWritable_textMapJson (map : TextMap) : (textMapJson map).isWritable = true :=
  isWritable_ofMembers (List.forall_mem_map.mpr fun entry _ => isWritable_ofString entry.2)

theorem Resource.everyMember_isWritable (resource : Resource) :
    resource.toJson.EveryMember (Json.isWritable · = true) :=
  Json.everyMember_ofMembers (by simp)

theorem Variant.everyMember_isWritable (variant : Variant) :
    variant.toJson.EveryMember (Json.isWritable · = true) := by
  cases variant <;> exact Json.everyMember_ofMembers (by simp)

theorem Kind.everyMember_isWritable (kind : Kind) :
    kind.toJson.EveryMember (Json.isWritable · = true) := by
  cases kind with
  | container contents => exact Json.everyMember_ofMembers (by simp)
  | item contents =>
    exact Json.everyMember_ofMembers (by simp [contents.variant.everyMember_isWritable.isWritable])

theorem Object.everyMember_isWritable (object : Object) (location : String) :
    (object.jsonWith (.ofString location)).EveryMember (Json.isWritable · = true) := by
  have resources : (Json.array (object.resources.map Resource.toJson)).isWritable = true :=
    Json.isWritable_array (List.forall_mem_map.mpr fun resource _ =>
      resource.everyMember_isWritable.isWritable)
  exact Json.everyMember_ofMembers
    (by simp [resources, object.kind.everyMember_isWritable.isWritable])

theorem Resource.areWritable_of_forms {omission : Omission} {entries : List (Resource × Nat)}
    {forms : List Json} (trims : Resource.HaveForms omission entries forms) :
    (Json.array forms).isWritable = true := by
  rw [Json.isWritable]
  induction trims with
  | nil => rfl
  | @cons entry form entries forms here there ih =>
    have first := (here.everyMember entry.1.everyMember_isWritable).isWritable
    rw [Json.areWritable, first, ih, Bool.and_self]

theorem Kind.isWritable_of_hasForm {kind : Kind} {omission : Omission} {json : Json}
    (form : kind.HasForm omission json) : json.isWritable = true := by
  have whole := kind.everyMember_isWritable
  cases kind with
  | container contents => exact (Trims.everyMember form whole).isWritable
  | item contents =>
    obtain ⟨variant, inner, trims⟩ := form
    have part := (inner.everyMember contents.variant.everyMember_isWritable).isWritable
    exact (trims.everyMember (whole.withMember "variant" part)).isWritable

/-- A form has a text, if its further members have one. -/
theorem Object.isWritable_of_hasForm {object : Object} {omission : Omission}
    {extra : List (String × Json)} {json : Json} (form : object.HasForm omission extra json)
    (writable : ∀ member ∈ extra, member.2.isWritable = true) : json.isWritable = true := by
  obtain ⟨written, kind, resources, stored, kindForm, resourceForms, -, mixes⟩ := form
  obtain ⟨location, rfl, -⟩ := Object.exists_location stored
  have changed := ((object.everyMember_isWritable location).withMember "kind"
    (Kind.isWritable_of_hasForm kindForm)).withMember "resources"
      (Resource.areWritable_of_forms resourceForms)
  exact ((changed.without omission.fields).mixes writable mixes).isWritable

/-! ## Forms with nothing left out -/

theorem Resource.haveForms_map {omission : Omission} {form : Resource × Nat → Json}
    (trims : ∀ entry, Trims entry.1.toJson (omission.ofResource entry.2) (form entry))
    (entries : List (Resource × Nat)) : Resource.HaveForms omission entries (entries.map form) :=
  List.forall₂_map_right_iff.mpr (List.forall₂_same.mpr fun entry _ => trims entry)

theorem Trims.refl (fields : List (String × Json)) :
    Trims (.ofMembers fields) [] (.ofMembers fields) := by
  refine ⟨_, _, rfl, rfl, ?_⟩
  simp [List.filter_eq_self.mpr]

/-- What is written is a form with nothing left out. -/
theorem Object.hasForm_of_toJson? {object : Object} {written : Json}
    (stored : object.toJson? = some written) : object.HasForm {} [] written := by
  obtain ⟨location, rfl, -⟩ := Object.exists_location stored
  refine ⟨_, object.kind.toJson, object.resources.map Resource.toJson, stored, ?_, ?_, by simp, ?_⟩
  · cases object.kind with
    | container contents => exact Trims.refl _
    | item contents =>
      have same : (Kind.item contents).toJson.withMember "variant" contents.variant.toJson =
          (Kind.item contents).toJson := rfl
      refine ⟨contents.variant.toJson, ?_, by rw [same]; exact Trims.refl _⟩
      cases contents.variant <;> exact Trims.refl _
  · have forms : object.resources.map Resource.toJson =
        object.resources.zipIdx.map fun entry => entry.1.toJson := by
      rw [← List.zipIdx_map_fst 0 object.resources, List.map_map, List.zipIdx_map_fst]
      rfl
    rw [forms]
    refine Resource.haveForms_map ?_ _
    exact fun _ => Trims.refl _
  · have same : ((object.jsonWith (.ofString location)).withMember "kind"
        object.kind.toJson).withMember "resources" (.array (object.resources.map Resource.toJson)) =
          object.jsonWith (.ofString location) := rfl
    rw [same]
    exact Trims.refl _

theorem lacks_nil (required : List String) : lacks required [] = false :=
  List.any_eq_false.mpr (by simp)

theorem Omission.breaks_none (object : Object) : Omission.breaks {} object = false := by
  have kind : Omission.breaksKind {} object.kind = false := by
    cases object.kind <;> simp [breaksKind, Kind.item?, lacks_nil]
  simp [breaks, kind, lacks_nil]

theorem Object.lacking_none (object : Object) : object.lacking {} = object := by
  have kind : object.kind.lacking [] = object.kind := by
    cases object.kind <;> simp [Kind.lacking, Item.lacking]
  simp [lacking, kind]

/-- A form with nothing left out is read as the object. -/
theorem Object.ofJson?_of_whole {object : Object} {json : Json}
    (form : object.HasForm {} [] json) : Object.ofJson? json = some object := by
  rw [Object.ofJson?_of_hasForm form, Omission.breaks_none, Object.lacking_none]
  rfl

/-! ## Texts -/

/-- The object that a text describes. -/
def Object.parse? (text : String) : Option Object :=
  (Json.parse? text).bind Object.ofJson?

theorem Trims.exists (fields : List (String × Json)) (omitted : List String) :
    ∃ json, Trims (.ofMembers fields) omitted json :=
  ⟨_, _, _, rfl, rfl, .refl _⟩

theorem Kind.exists_hasForm (kind : Kind) (omission : Omission) :
    ∃ json, kind.HasForm omission json := by
  cases kind with
  | container contents => exact Trims.exists _ _
  | item contents =>
    have inner : ∃ json, Trims contents.variant.toJson omission.ofVariant json := by
      cases contents.variant <;> exact Trims.exists _ _
    obtain ⟨variant, trims⟩ := inner
    exact ⟨_, variant, trims, _, _, rfl, rfl, .refl _⟩

/-- Whatever is left out and added, there is a form. -/
theorem Object.exists_hasForm {object : Object} (text : Utf8.IsText object.location)
    (omission : Omission) {extra : List (String × Json)}
    (unknown : ∀ member ∈ extra, member.1 ∉ Object.fieldNames) :
    ∃ json, object.HasForm omission extra json := by
  obtain ⟨location, decoded⟩ := Utf8.isText_iff_decodeText.mp text
  have stored : object.toJson? = some (object.jsonWith (.ofString location)) := by
    rw [Object.toJson?, decoded]
  obtain ⟨kind, kindForm⟩ := object.kind.exists_hasForm omission
  have resourceForms : Resource.HaveForms omission object.resources.zipIdx
      (object.resources.zipIdx.map fun entry =>
        entry.1.toJson.without (omission.ofResource entry.2)) :=
    Resource.haveForms_map (fun _ => ⟨_, _, rfl, rfl, by simp⟩) _
  exact ⟨_, _, kind, _, stored, kindForm, resourceForms, unknown, _, _, rfl, rfl, .refl _⟩

/-- An object whose location is text has a form, whatever is left out and whatever members are
added that are no fields.  Every text that spells such a form, in any order of the fields, is read
as the object with the default of each field that is left out, unless that leaves no object; and a
form whose further members have a text is spelled by its own. -/
theorem Object.parse?_forms (object : Object) (text : Utf8.IsText object.location)
    (omission : Omission) (extra : List (String × Json))
    (unknown : ∀ member ∈ extra, member.1 ∉ Object.fieldNames) :
    (∃ json, object.HasForm omission extra json) ∧
      ∀ json, object.HasForm omission extra json →
        (∀ spelled, Json.parse? spelled = some json → Object.parse? spelled =
          if omission.breaks object then none else some (object.lacking omission)) ∧
        ((∀ member ∈ extra, member.2.isWritable = true) →
          Json.parse? json.render = some json ∧ Json.parse? json.pretty = some json) := by
  refine ⟨Object.exists_hasForm text omission unknown, fun json form => ⟨?_, ?_⟩⟩
  · intro spelled reads
    rw [Object.parse?, reads, Option.bind_some, Object.ofJson?_of_hasForm form]
  · intro writable
    have whole := Object.isWritable_of_hasForm form writable
    exact ⟨Json.parse?_render whole, Json.parse?_pretty whole⟩

/-- A song that a command plays. -/
def playedSong : Object where
  id := 7
  title := "Song"
  flags := 64
  kind := .item { mimeType := "audio/ogg", variant := .active { action := "play", state := "on" } }

/-- A song without its number and its type is read as one that has neither, and beside a member
that is no field; a song without the state of its command is not read. -/
theorem Object.parse?_forms_playedSong :
    (∃ json, playedSong.HasForm { fields := ["id", "mtime"], ofKind := ["mime_type"] }
        [("note", .null)] json ∧
      Object.parse? json.render = some { playedSong with
        id := -333, kind := .item { variant := .active { action := "play", state := "on" } } }) ∧
    ∃ json, playedSong.HasForm { ofVariant := ["state"] } [] json ∧
      Object.parse? json.pretty = none := by
  constructor
  · obtain ⟨⟨json, form⟩, reads⟩ := Object.parse?_forms playedSong Utf8.isText_nil
      { fields := ["id", "mtime"], ofKind := ["mime_type"] } [("note", .null)] (by decide)
    obtain ⟨read, spelled⟩ := reads json form
    have text := (spelled (by simp [Json.isWritable])).1
    exact ⟨json, form, (read _ text).trans (by decide +kernel)⟩
  · obtain ⟨⟨json, form⟩, reads⟩ := Object.parse?_forms playedSong Utf8.isText_nil
      { ofVariant := ["state"] } [] (by decide)
    obtain ⟨read, spelled⟩ := reads json form
    have text := (spelled (by simp)).2
    exact ⟨json, form, (read _ text).trans (by decide +kernel)⟩

end MediaImport.Media
