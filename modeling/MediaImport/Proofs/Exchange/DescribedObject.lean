import MediaImport.Proofs.Exchange.Refusals
import MediaImport.Proofs.Script.ReadingWork

/-!
# What every object from a table is like

A script may put anything into a table, and metatables may answer anything that the
entries do not.  Still an object that reading has come to is of a certain form:
`IsWellFormed` says which, in terms of the values that were answered and of the previous
object.

Little of it depends on the table.  The type chooses one of five kinds, texts that end up
in metadata are never empty, and flags, auxiliary texts and resources are taken over.
What a link has besides is written last, so nothing in the table undoes it.
-/

namespace MediaImport.Media

variable (object : Object)

/-- An empty kind that a type names is the empty kind of its own type. -/
theorem Kind.emptied_of_ofType? {bits : Int32} {created : Kind}
    (named : ofType? bits = some created) : created.emptied = created := by
  unfold ofType? at named
  split at named
  · cases named
    rfl
  · obtain ⟨variant, known, rfl⟩ := Option.map_eq_some_iff.mp named
    have emptied : variant.emptied = variant := by
      unfold Variant.ofType? at known
      repeat' split at known
      all_goals
        cases known
        try rfl
    simp only [emptied, Kind.emptied]

/-- The five patterns that a type may have. -/
theorem Object.typeBits_mem : object.typeBits ∈ [1, 2, 6, 10, 26] := by
  unfold Object.typeBits
  cases object.kind with
  | container contents => simp [Kind.typeBits]
  | item contents =>
    cases variant : contents.variant <;> simp [Kind.typeBits, variant, Variant.typeBits]

theorem Object.isSome_container? :
    object.container?.isSome = ObjectType.has object.typeBits ObjectType.container := by
  unfold Object.container? Object.typeBits
  cases object.kind with
  | container contents =>
    change true = ObjectType.has 1 ObjectType.container
    decide
  | item contents => exact contents.variant.has_typeBits_container.symm

theorem Object.isSome_item? :
    object.item?.isSome = ObjectType.has object.typeBits ObjectType.item := by
  unfold Object.item? Object.typeBits
  cases object.kind with
  | container contents =>
    change false = ObjectType.has 1 ObjectType.item
    decide
  | item contents =>
    change true = ObjectType.has contents.variant.typeBits ObjectType.item
    cases contents.variant <;> simp only [Variant.typeBits] <;> decide

theorem Object.isSome_command? :
    object.command?.isSome = ObjectType.has object.typeBits ObjectType.activeItem := by
  unfold Object.command? Object.typeBits
  cases object.kind with
  | container contents =>
    change false = ObjectType.has 1 ObjectType.activeItem
    decide
  | item contents =>
    obtain ⟨mimeType, serviceId, trackNumber, variant⟩ := contents
    cases variant <;> simp only [Kind.typeBits, Variant.typeBits, Option.isSome] <;> decide

end MediaImport.Media

namespace MediaImport.Exchange

open MediaImport.Media MediaImport.Script

namespace Reader

/-- A protocol is the one that a table names for a link: plain HTTP if it names none. -/
def NamesProtocol (reader : Reader) (contents : Bytes) (protocol : String) : Prop :=
  if contents = [] then protocol = "http-get" else reader.charset.decode contents = .ok protocol

/-- An object as reading a table makes it, given the values of the properties of the
table and the previous object. -/
structure IsWellFormed (reader : Reader) (view : Nat → String → Value) (table : Nat)
    (previous : Option Object) (object : Object) : Prop where
  isVirtual : object.isVirtual = true
  /-- It has the type of the empty object that the type in the table names. -/
  typeBits : ∃ created,
    Object.create? (Int32.ofInt (view table "objectType").propertyWhole) = some created ∧
      object.typeBits = created.typeBits
  normalized : object.typeBits ∈ [1, 2, 6, 10, 26]
  container : object.container?.isSome = ObjectType.has object.typeBits ObjectType.container
  item : object.item?.isSome = ObjectType.has object.typeBits ObjectType.item
  command : object.command?.isSome = ObjectType.has object.typeBits ObjectType.activeItem
  recognised : ∀ key ∈ object.metadata, key ∈ MetadataKey.all.map Symbol.text
  /-- An empty text is the description of the previous object, and the table has no
  other. -/
  empty : ∀ key, object.metadata[key]? = some "" →
    key = MetadataKey.description ∧ (view table "description").propertyBytes = [] ∧
      previous.bind (·.metadata[MetadataKey.description]?) = some ""
  flags : object.flags = previous.elim 0 Object.flags
  auxiliary : object.auxiliary = previous.elim ∅ Object.auxiliary
  resources :
    if object.kind.isUrl ∧ previous.elim [] Object.resources = [] then
      ∃ item protocol, object.item? = some item ∧
        reader.NamesProtocol (view table "protocol").propertyBytes protocol ∧
        object.resources = [{
          handler := 0
          attributes := (∅ : TextMap).insert "protocolInfo" <|
            protocol ++ ":*:" ++ (if item.mimeType = "" then "*" else item.mimeType) ++ ":*" }]
    else object.resources = previous.elim [] Object.resources
  restricted : object.kind.isUrl = true → object.restricted = true
  updateId : ∀ contents, object.container? = some contents → 0 ≤ contents.updateId

variable (reader : Reader) (view : Nat → String → Value) (table : Nat)

/-! ## The outcome -/

/-- An object is what the table describes, its type names a kind, and everything that
was decoded for it is text. -/
theorem outcome_eq_ok {previous : Option Object} {object : Object}
    (came : reader.outcome view table previous = .ok (some object)) :
    ∃ created,
      Kind.ofType? (Int32.ofInt (view table "objectType").propertyWhole) = some created ∧
        (∀ contents ∈ decodedFor view table created, reader.fault? contents = none) ∧
        object = reader.describedAs view table previous created := by
  unfold outcome at came
  dsimp only at came
  split at came
  · cases came
  · next meant =>
    have present : view table "objectType" ≠ .nil := by
      intro absent
      rw [absent] at meant
      exact meant rfl
    rw [Value.propertyInt32_of_present present] at came
    split at came
    · cases came
    · next created named =>
      refine ⟨created, named, ?_⟩
      unfold checked at came
      split at came
      · next faultless =>
        exact ⟨List.findSome?_eq_none_iff.mp faultless, (Option.some.inj (Except.ok.inj came)).symm⟩
      · cases came

/-! ## Texts -/

theorem decode_of_fault? {contents : Bytes} (faultless : reader.fault? contents = none) :
    ∃ text, reader.charset.decode contents = .ok text := by
  unfold fault? at faultless
  split at faultless
  · next text read => exact ⟨text, read⟩
  · cases faultless

theorem entryText_ne_empty (key : String) (contents : Bytes) :
    reader.entryText key contents ≠ some "" := by
  unfold entryText
  split
  · simp
  · next present =>
    split
    · split
      · next positive =>
        intro empty
        rw [Option.some.inj empty] at positive
        exact absurd positive (by decide)
      · simp
    · exact reader.charset.toOption_decode_ne_empty (by simpa using present)

theorem textOf?_ne_empty (contents : Bytes) : reader.textOf? contents ≠ some "" := by
  unfold textOf?
  split
  · simp
  · next present => exact reader.charset.toOption_decode_ne_empty (by simpa using present)

theorem eq_nil_of_textOf? {contents : Bytes} (faultless : reader.fault? contents = none)
    (noText : reader.textOf? contents = none) : contents = [] := by
  obtain ⟨text, read⟩ := reader.decode_of_fault? faultless
  by_contra present
  rw [textOf?, if_neg (by simpa using present), read] at noText
  cases noText

theorem namesProtocol_textOf? {contents : Bytes} (faultless : reader.fault? contents = none) :
    reader.NamesProtocol contents ((reader.textOf? contents).getD defaultProtocol) := by
  obtain ⟨text, read⟩ := reader.decode_of_fault? faultless
  unfold NamesProtocol textOf?
  by_cases empty : contents = []
  · rw [if_pos empty, if_pos (List.isEmpty_iff.mpr empty)]
    rfl
  · rw [if_neg empty, if_neg (by simpa using empty), read]
    rfl

theorem isRecognised_of_mem_metadataWith {entries : String → Bytes} {key : String}
    (member : key ∈ reader.metadataWith entries MetadataKey.all ∅) :
    key ∈ MetadataKey.all.map Symbol.text := by
  rw [← MetadataKey.isRecognised_iff]
  rw [Std.ExtTreeMap.mem_iff_isSome_getElem?, getElem?_metadataWith_all] at member
  by_contra other
  simp [other] at member

theorem metadataWith_ne_empty (entries : String → Bytes) (key : String) :
    (reader.metadataWith entries MetadataKey.all ∅)[key]? ≠ some "" := by
  rw [getElem?_metadataWith_all]
  split
  · exact reader.entryText_ne_empty key _
  · simp

/-! ## The object -/

variable (previous : Option Object)

theorem typeBits_variantOf (variant : Variant) :
    (variantOf view table previous variant).typeBits = variant.typeBits := by
  cases variant <;> rfl

theorem isUrl_variantOf (variant : Variant) :
    (variantOf view table previous variant).isUrl = variant.isUrl := by
  cases variant <;> rfl

theorem eq_description_of_empty {given : Option String} {metadata : TextMap}
    (given_ne : given ≠ some "") (metadata_ne : ∀ key : String, metadata[key]? ≠ some "")
    {key : String} (empty : (withDescription given previous metadata)[key]? = some "") :
    key = MetadataKey.description ∧ given = none ∧
      previous.bind (·.metadata[MetadataKey.description]?) = some "" := by
  rw [getElem?_withDescription] at empty
  by_cases same : key = MetadataKey.description
  · rw [if_pos same] at empty
    cases given with
    | some text => exact absurd empty given_ne
    | none =>
      refine ⟨same, rfl, ?_⟩
      cases taken : previous.bind (·.metadata[MetadataKey.description]?) with
      | none =>
        rw [taken] at empty
        exact absurd empty (metadata_ne key)
      | some text =>
        rw [taken] at empty
        exact empty
  · rw [if_neg same] at empty
    exact absurd empty (metadata_ne key)

theorem mem_withDescription {given : Option String} {metadata : TextMap} {key : String}
    (member : key ∈ withDescription given previous metadata) :
    key = MetadataKey.description ∨ key ∈ metadata := by
  by_cases same : key = MetadataKey.description
  · exact .inl same
  · rw [Std.ExtTreeMap.mem_iff_isSome_getElem?, getElem?_withDescription, if_neg same] at member
    exact .inr (Std.ExtTreeMap.mem_iff_isSome_getElem?.mpr member)

/-- What is taken over whatever the table says. -/
theorem takenOver_commonObject (created : Kind) :
    let common := reader.commonObject view table previous (.ofKind created)
    common.flags = previous.elim 0 Object.flags ∧
      common.auxiliary = previous.elim ∅ Object.auxiliary ∧
      common.resources = previous.elim [] Object.resources := by
  cases previous <;> exact ⟨rfl, rfl, rfl⟩

theorem isWellFormed_container {contents : Container}
    (named : Kind.ofType? (Int32.ofInt (view table "objectType").propertyWhole) =
      some (.container contents)) :
    reader.IsWellFormed view table previous
      (reader.describedAs view table previous (.container contents)) := by
  obtain ⟨flags, auxiliary, resources⟩ :=
    reader.takenOver_commonObject view table previous (.container contents)
  have fresh : contents.updateId = 0 := by
    have empty := Kind.emptied_of_ofType? named
    cases empty
    rfl
  exact {
    isVirtual := rfl
    typeBits := ⟨.ofKind (.container contents), by rw [Object.create?, named]; rfl, rfl⟩
    normalized := Object.typeBits_mem _
    container := Object.isSome_container? _
    item := Object.isSome_item? _
    command := Object.isSome_command? _
    recognised := fun key member => reader.isRecognised_of_mem_metadataWith member
    empty := fun key empty => absurd empty (reader.metadataWith_ne_empty _ key)
    flags
    auxiliary
    resources := by
      rw [if_neg (by simp [describedAs, containerObject, Kind.isUrl])]
      exact resources
    restricted := fun isUrl => by cases isUrl
    updateId := by
      intro contents isContainer
      cases isContainer
      dsimp only
      split
      · next least => exact least
      · exact fresh ▸ Int32.le_refl 0 }

theorem isWellFormed_item {contents : Item}
    (named : Kind.ofType? (Int32.ofInt (view table "objectType").propertyWhole) =
      some (.item contents))
    (faultless : ∀ bytes ∈ decodedItem view table contents.variant, reader.fault? bytes = none) :
    reader.IsWellFormed view table previous
      (reader.describedAs view table previous (.item contents)) := by
  obtain ⟨flags, auxiliary, resources⟩ :=
    reader.takenOver_commonObject view table previous (.item contents)
  have isUrl := isUrl_variantOf view table previous contents.variant
  simp only [describedAs, itemObject_eq]
  exact {
    isVirtual := rfl
    typeBits := ⟨.ofKind (.item contents), by rw [Object.create?, named]; rfl,
      typeBits_variantOf view table previous contents.variant⟩
    normalized := Object.typeBits_mem _
    container := Object.isSome_container? _
    item := Object.isSome_item? _
    command := Object.isSome_command? _
    recognised := by
      intro key member
      rcases mem_withDescription previous member with rfl | read
      · decide
      · exact reader.isRecognised_of_mem_metadataWith read
    empty := by
      intro key empty
      obtain ⟨same, noText, taken⟩ := eq_description_of_empty previous
        (reader.textOf?_ne_empty _) (reader.metadataWith_ne_empty _) empty
      exact ⟨same, reader.eq_nil_of_textOf? (faultless _ (by simp [decodedItem])) noText, taken⟩
    flags
    auxiliary
    resources := by
      simp only [resources]
      -- The link comes after what was taken over, and only where nothing was.
      by_cases link : contents.variant.isUrl = true
      · by_cases carried : previous.elim [] Object.resources = []
        · rw [if_pos ⟨isUrl.trans link, carried⟩, link, carried]
          refine ⟨_, _, rfl, reader.namesProtocol_textOf? (faultless _ ?_), ?_⟩
          · simp [decodedItem, link]
          · exact congrArg (fun resource => [resource]) (reader.linkOf_eq view table _)
        · rw [if_neg (fun both => carried both.2)]
          simp [carried]
      · rw [if_neg (fun both => link (isUrl.symm.trans both.1))]
        simp [link]
    restricted := by
      intro link
      rw [isUrl.symm.trans link, Bool.or_true]
    updateId := fun _ isContainer => by cases isContainer }

/-- The object that a table describes is well-formed. -/
theorem isWellFormed_describedAs {created : Kind}
    (named : Kind.ofType? (Int32.ofInt (view table "objectType").propertyWhole) = some created)
    (faultless : ∀ contents ∈ decodedFor view table created, reader.fault? contents = none) :
    reader.IsWellFormed view table previous (reader.describedAs view table previous created) := by
  cases created with
  | container contents => exact reader.isWellFormed_container view table previous named
  | item contents =>
    refine reader.isWellFormed_item view table previous named ?_
    exact fun bytes member => faultless bytes (List.mem_append_right _ member)

theorem isWellFormed_of_under {object : Object}
    (came : (reader.object previous (some table)).under view = .ok (some object)) :
    reader.IsWellFormed view table previous object := by
  rw [under_object] at came
  obtain ⟨created, named, faultless, rfl⟩ := reader.outcome_eq_ok view table came
  exact reader.isWellFormed_describedAs view table previous named faultless

/-! ## Reading -/

/-- Every object that reading a table comes to is well-formed, whether the application
reads the table between two runs of scripts or a running script has called for it, and
whatever metatables do meanwhile. -/
theorem isWellFormed_read {σ : Type} (host : Host σ) :
    let reading := reader.object previous (some table)
    (∀ interpreter state object, (interpreter.read host state reading).1 = .ok (some object) →
      ∃ view, Interpreter.Answered host view reading interpreter state ∧
        reader.IsWellFormed view table previous object) ∧
    ∀ config steps object, Config.Follows host reading config steps (.done (some object)) →
      ∃ view, Config.FollowsIn host view reading config steps (.done (some object)) ∧
        reader.IsWellFormed view table previous object := by
  intro reading
  -- No property is asked for twice, so the answers make up one view, even where asking again
  -- would have been answered differently.
  have asks : reading.Asks (fun _ _ _ => True) (fun _ => True) askedNames :=
    reader.asks_object trivial (fun _ _ => trivial) previous
  constructor
  · intro interpreter state object came
    obtain ⟨view, answered, -⟩ :=
      (Interpreter.quiet_of_read came).answered asks nodup_askedNames fun _ _ => .nil
    refine ⟨view, answered, reader.isWellFormed_of_under view table previous ?_⟩
    rw [← Interpreter.read_of_answered answered, came]
  · intro config steps object follows
    obtain ⟨view, inView, -⟩ := follows.inView asks nodup_askedNames fun _ _ => .nil
    exact ⟨view, inView, reader.isWellFormed_of_under view table previous inView.under⟩

/-- A heap with the table of a link: its type is a text, and it wants to be unrestricted. -/
def radioStation : Heap :=
  (({} : Heap).newTable (.ofEntries (Table.stringEntries
    [("objectType", .ofString " 8.9 "), ("restricted", .int 0),
      ("mimetype", .ofString "audio/mpeg"), ("protocol", .ofString "rtsp")]))).1

/-- A container that a station was made from. -/
def stations : Object where
  title := "Stations"
  flags := Flag.onlineService
  kind := .container { updateId := 7 }

/-- The station that is read over the container. -/
def station : Object where
  title := "Stations"
  restricted := true
  isVirtual := true
  flags := Flag.onlineService
  resources := [⟨0, (∅ : TextMap).insert "protocolInfo" "rtsp:*:audio/mpeg:*"⟩]
  kind := .item { mimeType := "audio/mpeg", variant := .externalUrl }

theorem outcome_radioStation :
    internal.outcome radioStation.property 0 (some stations) = .ok (some station) := by
  decide +kernel

theorem isPlain_radioStation : IsPlain radioStation 0 := by
  constructor
  · exact Table.metatable_ofEntries _
  · intro id nested
    rw [show radioStation.property 0 "meta" = _ from Table.get_ofEntries _ _] at nested
    simp at nested

/-- The station is well-formed, read by the application or by a running script. -/
theorem isWellFormed_station :
    let reading := internal.object (some stations) (some 0)
    (∃ view, Interpreter.Answered Importer.host view reading { heap := radioStation }
        ⟨.absent, {}⟩ ∧ internal.IsWellFormed view 0 (some stations) station) ∧
      ∃ (config : Config Importer.Desk) (steps : Nat), config.heap = radioStation ∧
        ∃ view, Config.FollowsIn Importer.host view reading config steps (.done (some station)) ∧
          internal.IsWellFormed view 0 (some stations) station := by
  intro reading
  obtain ⟨outside, inside⟩ := internal.isWellFormed_read 0 (some stations) Importer.host
  have came : reading.under radioStation.property = .ok (some station) := by
    rw [under_object, outcome_radioStation]
  have asks := internal.asks_of_isPlain (some stations) isPlain_radioStation
  constructor
  · refine outside _ _ _ ?_
    rw [Interpreter.read_of_plain Importer.host { heap := radioStation } _ _ askedNames asks]
    exact came
  · let config : Config Importer.Desk := {
      focus := reading.behaviour.bind fun _ => .done (.result [])
      heap := radioStation
      threads := ∅
      state := ⟨.absent, {}⟩ }
    have room : config.HasRoom := ⟨by decide, by decide⟩
    obtain ⟨steps, -, follows, -⟩ : ∃ steps, config.Busy Importer.host steps ∧
        Config.Follows Importer.host reading config steps (.done (some station)) ∧ _ :=
      Config.reading_ends_of_plain reading askedNames _ room asks rfl came
    exact ⟨config, steps, rfl, inside config steps station follows⟩

end Reader

end MediaImport.Exchange
