import MediaImport.Importer.Context
import MediaImport.Proofs.Exchange.RoundTrip
import MediaImport.Proofs.Script.Assignments
import MediaImport.Proofs.Script.ReadingWork

/-!
# The properties that an object depends on

What a table describes depends on few of its properties.  Some count for all objects, and
further ones for a kind of object, for a variant of item, or in playlists only.  Two tables
that read alike in these have the same outcome, whether that is an object, nothing or an
error, and whatever else stands in them.

To read alike is less than to hold the same values: what counts is what a property comes
to as a text, a number or a flag, and a table of metadata is no more than its entries.
-/

namespace MediaImport.Exchange

open MediaImport.Media MediaImport.Script

namespace Reader

/-! ## Tables that read alike -/

/-- Two tables read alike in what counts for all kinds of object. -/
structure CommonAlike (view : Nat → String → Value) (table : Nat)
    (other : Nat → String → Value) (twin : Nat) : Prop where
  id : (view table "id").propertyInt32 noId = (other twin "id").propertyInt32 noId
  refId : (view table "refID").propertyInt32 noId = (other twin "refID").propertyInt32 noId
  parentId :
    (view table "parentID").propertyInt32 noId = (other twin "parentID").propertyInt32 noId
  title : (view table "title").propertyBytes = (other twin "title").propertyBytes
  upnpClass : (view table "upnpclass").propertyBytes = (other twin "upnpclass").propertyBytes
  restricted :
    (view table "restricted").propertyFlag? = (other twin "restricted").propertyFlag?
  mtime : (view table "mtime").propertyInt64 (-1) = (other twin "mtime").propertyInt64 (-1)
  sizeOnDisk :
    (view table "sizeOnDisk").propertyInt64 (-1) = (other twin "sizeOnDisk").propertyInt64 (-1)
  location : (view table "location").propertyBytes = (other twin "location").propertyBytes
  /-- Where there is no table of metadata, there are no entries. -/
  metadata : ∀ symbol ∈ MetadataKey.all,
    metadataBytes view table symbol.text = metadataBytes other twin symbol.text

/-- Two tables read alike in what counts for items of a variant. -/
structure ItemAlike (purpose : Purpose) (variant : Variant) (view : Nat → String → Value)
    (table : Nat) (other : Nat → String → Value) (twin : Nat) : Prop where
  mimeType : (view table "mimetype").propertyBytes = (other twin "mimetype").propertyBytes
  serviceId : (view table "serviceID").propertyBytes = (other twin "serviceID").propertyBytes
  description :
    (view table "description").propertyBytes = (other twin "description").propertyBytes
  playlistOrder : purpose = .playlist →
    (view table "playlistOrder").propertyInt32 0 = (other twin "playlistOrder").propertyInt32 0
  action : ∀ command, variant = .active command →
    (view table "action").propertyText = (other twin "action").propertyText
  state : ∀ command, variant = .active command →
    (view table "state").propertyText = (other twin "state").propertyText
  protocol : variant.isUrl = true →
    (view table "protocol").propertyBytes = (other twin "protocol").propertyBytes

/-- Two tables read alike in what counts for containers. -/
structure ContainerAlike (view : Nat → String → Value) (table : Nat)
    (other : Nat → String → Value) (twin : Nat) : Prop where
  updateId :
    (view table "updateID").propertyInt32 (-1) = (other twin "updateID").propertyInt32 (-1)
  searchable :
    (view table "searchable").propertyFlag? = (other twin "searchable").propertyFlag?

/-- Two tables read alike in what counts for objects of a kind. -/
def KindAlike (purpose : Purpose) (created : Kind) (view : Nat → String → Value)
    (table : Nat) (other : Nat → String → Value) (twin : Nat) : Prop :=
  match created with
  | .item contents => ItemAlike purpose contents.variant view table other twin
  | .container _ => ContainerAlike view table other twin

/-- Two tables read alike in all that counts for the object that they ask for. -/
structure ReadsAlike (purpose : Purpose) (view : Nat → String → Value) (table : Nat)
    (other : Nat → String → Value) (twin : Nat) : Prop where
  objectType :
    (view table "objectType").propertyInt32 (-1) = (other twin "objectType").propertyInt32 (-1)
  common : CommonAlike view table other twin
  kind : ∀ created, Kind.ofType? ((view table "objectType").propertyInt32 (-1)) = some created →
    KindAlike purpose created view table other twin

/-! ## What they describe -/

/-- Metadata depend on the texts that entries give. -/
theorem metadataWith_congr {reader another : Reader} {entries others : String → Bytes}
    {keys : List Symbol} (metadata : TextMap)
    (same : ∀ key ∈ keys, reader.entryText key.text (entries key.text) =
      another.entryText key.text (others key.text)) :
    reader.metadataWith entries keys metadata = another.metadataWith others keys metadata := by
  induction keys generalizing metadata with
  | nil => rfl
  | cons key keys ih =>
    obtain ⟨first, rest⟩ := List.forall_mem_cons.mp same
    rw [metadataWith_cons, metadataWith_cons, first]
    exact ih _ rest

variable (reader : Reader) {view other : Nat → String → Value} {table twin : Nat}

theorem decodedEntries_congr (alike : CommonAlike view table other twin) :
    decodedEntries (metadataBytes view table) MetadataKey.all =
      decodedEntries (metadataBytes other twin) MetadataKey.all := by
  refine List.map_congr_left ?_
  intro symbol member
  exact alike.metadata symbol (List.mem_filter.mp member).1

theorem commonObject_congr (alike : CommonAlike view table other twin)
    (previous : Option Object) (created : Object) :
    reader.commonObject view table previous created =
      reader.commonObject other twin previous created := by
  have metadata : reader.metadataWith (metadataBytes view table) MetadataKey.all ∅ =
      reader.metadataWith (metadataBytes other twin) MetadataKey.all ∅ :=
    metadataWith_congr ∅ fun symbol member => by rw [alike.metadata symbol member]
  simp only [commonObject, naturalOf?, alike.id, alike.refId, alike.parentId, alike.title,
    alike.upnpClass, alike.restricted, alike.mtime, alike.sizeOnDisk, alike.location, metadata]

theorem itemObject_congr {variant : Variant}
    (alike : ItemAlike reader.purpose variant view table other twin) (previous : Option Object)
    (common : Object) :
    reader.itemObject view table previous variant common =
      reader.itemObject other twin previous variant common := by
  have ofVariant : variantOf view table previous variant =
      variantOf other twin previous variant := by
    cases variant with
    | active command =>
      simp only [variantOf, looseTextOf?, alike.action command rfl, alike.state command rfl]
    | _ => rfl
  have number : ∀ metadata, reader.trackNumberOf view table metadata =
      reader.trackNumberOf other twin metadata := by
    intro metadata
    unfold trackNumberOf
    cases purpose : reader.purpose with
    | playlist => exact alike.playlistOrder purpose
    | layout => rfl
  have contents : ∀ metadata, reader.itemContents view table previous variant metadata =
      reader.itemContents other twin previous variant metadata := by
    intro metadata
    simp only [itemContents, alike.mimeType, alike.serviceId, ofVariant, number]
  simp only [itemObject, contents, alike.description]
  cases isUrl : variant.isUrl with
  | true => simp only [asLink, alike.protocol isUrl]
  | false => rfl

theorem containerObject_congr (alike : ContainerAlike view table other twin)
    (created : Container) (common : Object) :
    containerObject view table created common = containerObject other twin created common := by
  simp only [containerObject, alike.updateId, alike.searchable]

theorem describedAs_congr {created : Kind} (common : CommonAlike view table other twin)
    (kind : KindAlike reader.purpose created view table other twin) (previous : Option Object) :
    reader.describedAs view table previous created =
      reader.describedAs other twin previous created := by
  cases created with
  | item contents =>
    simp only [describedAs, reader.commonObject_congr common, reader.itemObject_congr kind]
  | container contents =>
    simp only [describedAs, reader.commonObject_congr common, containerObject_congr kind]

theorem decodedFor_congr {created : Kind} (purpose : Purpose)
    (common : CommonAlike view table other twin)
    (kind : KindAlike purpose created view table other twin) :
    decodedFor view table created = decodedFor other twin created := by
  have entries := decodedEntries_congr common
  cases created with
  | container contents => simp only [decodedFor, common.title, common.upnpClass, entries]
  | item contents =>
    have alike : ItemAlike purpose contents.variant view table other twin := kind
    simp only [decodedFor, decodedItem, common.title, common.upnpClass, entries, alike.mimeType,
      alike.serviceId, alike.description]
    cases isUrl : contents.variant.isUrl with
    | true => rw [alike.protocol isUrl]
    | false => rfl

/-- Tables that read alike have the same outcome. -/
theorem outcome_congr (alike : ReadsAlike reader.purpose view table other twin)
    (previous : Option Object) :
    reader.outcome view table previous = reader.outcome other twin previous := by
  obtain ⟨objectType, common, kind⟩ := alike
  unfold outcome
  rw [← objectType]
  generalize (view table "objectType").propertyInt32 (-1) = requested at kind
  dsimp only
  cases named : Kind.ofType? requested with
  | none => rfl
  | some created =>
    have alike := kind created named
    simp only [reader.describedAs_congr common alike, decodedFor_congr _ common alike]

/-! ## Places that count -/

/-- The names of the properties that count for objects of a kind. -/
def kindNames (purpose : Purpose) : Kind → List String
  | .item contents =>
    ["mimetype", "serviceID", "description"] ++
      (match purpose with
        | .playlist => ["playlistOrder"]
        | .layout => []) ++
      match contents.variant with
      | .plain => []
      | .active _ => ["action", "state"]
      | .externalUrl | .internalUrl => ["protocol"]
  | .container _ => ["updateID", "searchable"]

/-- The names of the properties that count for all kinds of object. -/
def sharedNames : List String :=
  ["id", "refID", "parentID", "title", "upnpclass", "restricted", "mtime", "sizeOnDisk", "meta",
    "location"]

/-- The names of the properties that count in a table that asks for some type of object. -/
def documentedNames (purpose : Purpose) (requested : Int32) : List String :=
  "objectType" :: sharedNames ++ ((Kind.ofType? requested).map (kindNames purpose)).getD []

theorem kindAlike_of_agree {purpose : Purpose} {created : Kind}
    (agree : ∀ name ∈ kindNames purpose created, other twin name = view table name) :
    KindAlike purpose created view table other twin := by
  cases created with
  | container contents =>
    simp only [kindNames, List.forall_mem_cons] at agree
    obtain ⟨updateId, searchable, -⟩ := agree
    exact ⟨by rw [updateId], by rw [searchable]⟩
  | item contents =>
    simp only [kindNames, List.forall_mem_append] at agree
    obtain ⟨⟨always, inPlaylists⟩, ofVariant⟩ := agree
    simp only [List.forall_mem_cons] at always
    obtain ⟨mimeType, serviceId, description, -⟩ := always
    constructor
    · rw [mimeType]
    · rw [serviceId]
    · rw [description]
    · rintro rfl
      rw [inPlaylists "playlistOrder" (by simp)]
    · intro command isActive
      rw [ofVariant "action" (by simp [isActive])]
    · intro command isActive
      rw [ofVariant "state" (by simp [isActive])]
    · intro isUrl
      cases variant : contents.variant with
      | externalUrl => rw [ofVariant "protocol" (by simp [variant])]
      | internalUrl => rw [ofVariant "protocol" (by simp [variant])]
      | _ =>
        rw [variant] at isUrl
        cases isUrl

theorem commonAlike_of_agree (agree : ∀ name ∈ sharedNames, other twin name = view table name)
    (nested : ∀ id, view table "meta" = .table id → ∀ key ∈ metadataNames,
      other id key = view id key) : CommonAlike view table other twin := by
  simp only [sharedNames, List.forall_mem_cons] at agree
  obtain ⟨id, refId, parentId, title, upnpClass, restricted, mtime, sizeOnDisk, «meta», location,
    -⟩ := agree
  have entries : ∀ symbol ∈ MetadataKey.all,
      metadataBytes view table symbol.text = metadataBytes other twin symbol.text := by
    intro symbol member
    unfold metadataBytes
    rw [«meta»]
    cases named : view table "meta" with
    | table id =>
      have entry := nested id named symbol.text (List.mem_map_of_mem member)
      simp only [Value.propertyTable?, entry]
    | _ => rfl
  exact {
    id := by rw [id]
    refId := by rw [refId]
    parentId := by rw [parentId]
    title := by rw [title]
    upnpClass := by rw [upnpClass]
    restricted := by rw [restricted]
    mtime := by rw [mtime]
    sizeOnDisk := by rw [sizeOnDisk]
    location := by rw [location]
    metadata := entries }

/-- Tables that hold the same values in the places that count read alike. -/
theorem readsAlike_of_agree {purpose : Purpose}
    (agree : ∀ name ∈ documentedNames purpose ((view table "objectType").propertyInt32 (-1)),
      other twin name = view table name)
    (nested : ∀ id, view table "meta" = .table id → ∀ key ∈ metadataNames,
      other id key = view id key) :
    ReadsAlike purpose view table other twin := by
  obtain ⟨always, ofKind⟩ := List.forall_mem_append.mp agree
  obtain ⟨objectType, shared⟩ := List.forall_mem_cons.mp always
  refine ⟨by rw [objectType], commonAlike_of_agree shared nested, ?_⟩
  intro created named
  refine kindAlike_of_agree ?_
  rwa [named] at ofKind

/-- A place on the heap that counts for a table: a property of its own, or an entry of its
table of metadata. -/
def Counts (purpose : Purpose) (heap : Heap) (table : Nat) (place : Nat) (key : Value) : Prop :=
  let requested := (heap.property table "objectType").propertyInt32 (-1)
  (place = table ∧ ∃ name ∈ documentedNames purpose requested, key = .ofString name) ∨
    (heap.property table "meta" = .table place ∧ ∃ name ∈ metadataNames, key = .ofString name)

theorem kindNames_subset (purpose : Purpose) (created : Kind) :
    kindNames purpose created ⊆ itemNames ++ containerNames := by
  cases created with
  | container contents => simp [kindNames, containerNames]
  | item contents =>
    obtain ⟨mimeType, serviceId, trackNumber, variant⟩ := contents
    cases purpose <;> cases variant <;> simp [kindNames, itemNames]

theorem documentedNames_subset (purpose : Purpose) (requested : Int32) :
    documentedNames purpose requested ⊆ askedNames := by
  refine List.append_subset.mpr ⟨by decide, ?_⟩
  cases Kind.ofType? requested with
  | none => exact List.nil_subset _
  | some created =>
    refine List.Subset.trans (kindNames_subset purpose created) ?_
    decide

/-- A property that is never asked for does not count: the tables of auxiliary texts and of
resource attributes, for instance, and the marks of Ogg videos and of online services. -/
theorem not_counts_of_notMem {purpose : Purpose} {heap : Heap} {place : Nat} {name : String}
    (unasked : name ∉ askedNames) : ¬Counts purpose heap table place (.ofString name) := by
  have other : ∀ listed ∈ askedNames, Value.ofString name ≠ .ofString listed := by
    rintro listed member same
    rw [Value.ofString, Value.ofString, Value.str.injEq, Bytes.ofString_inj] at same
    exact unasked (same ▸ member)
  rintro (⟨-, listed, member, same⟩ | ⟨-, listed, member, same⟩)
  · exact other listed (documentedNames_subset _ _ member) same
  · have entry : metadataNames ⊆ askedNames := by decide
    exact other listed (entry member) same

example : ∀ name ∈ ["aux", "res", "theora", "onlineservice"], name ∉ askedNames := by decide

theorem readsAlike_rawSet {purpose : Purpose} {heap : Heap} {place : Nat} {key : Value}
    (elsewhere : ¬Counts purpose heap table place key) (value : Value) :
    ReadsAlike purpose heap.property table (heap.rawSet place key value).property table := by
  obtain ⟨notOwn, notEntry⟩ := not_or.mp elsewhere
  refine readsAlike_of_agree ?_ ?_
  · intro name member
    rw [Heap.property_rawSet, if_neg]
    rintro ⟨rfl, same⟩
    exact notOwn ⟨rfl, name, member, same⟩
  · intro id nested name member
    rw [Heap.property_rawSet, if_neg]
    rintro ⟨rfl, same⟩
    exact notEntry ⟨nested, name, member, same⟩

/-- Storing in another place leaves a table plain. -/
theorem isPlain_rawSet {purpose : Purpose} {heap : Heap} {place : Nat} {key : Value}
    (elsewhere : ¬Counts purpose heap table place key) (plain : IsPlain heap table)
    (value : Value) :
    IsPlain (heap.rawSet place key value) table := by
  obtain ⟨outer, nested⟩ := plain
  refine ⟨by rw [Heap.metatable_rawSet, outer], ?_⟩
  intro id named
  rw [Heap.metatable_rawSet]
  refine nested id ?_
  rwa [Heap.property_rawSet, if_neg] at named
  rintro ⟨rfl, same⟩
  exact (not_or.mp elsewhere).1 ⟨rfl, "meta", by simp [documentedNames, sharedNames], same⟩

/-! ## Reading them -/

/-- Only the documented properties matter.  Two tables that are read without an error, by the
application or by a running script, have the same outcome if they read alike.  Assigning to
any place of a plain table that does not count changes nothing. -/
theorem read_alike {σ τ : Type} (host : Host σ) (another : Host τ) (purpose : Purpose)
    (conversions : Conversions) (previous : Option Object) (table twin : Nat) :
    let reader := Reader.ofConversions purpose conversions
    let reading := reader.object previous (some table)
    let rereading := reader.object previous (some twin)
    (∀ (first : Interpreter) (state : σ) (second : Interpreter) (later : τ),
      Interpreter.Quiet host reading first state →
      Interpreter.Quiet another rereading second later →
        (∃ view, Interpreter.Answered host view reading first state) ∧
        (∃ other, Interpreter.Answered another other rereading second later) ∧
        ∀ view other, Interpreter.Answered host view reading first state →
          Interpreter.Answered another other rereading second later →
          ReadsAlike purpose view table other twin →
          (first.read host state reading).1 = (second.read another later rereading).1) ∧
    (∀ first steps ending second more reending view other,
      Config.FollowsIn host view reading first steps ending →
      Config.FollowsIn another other rereading second more reending →
      ReadsAlike purpose view table other twin → ending.under view = reending.under other) ∧
    ∀ (interpreter : Interpreter) (state : σ) (site : Option Site) (place : Nat)
      (key value : Value), IsPlain interpreter.heap table →
      (interpreter.heap.table place).metatable = none → badKey? key = none →
      ¬Counts purpose interpreter.heap table place key →
        ∃ edited : Interpreter,
          interpreter.attempt host state
              ((fun _ => .result []) <$> store site (.table place) key value []) =
            (.ok [], edited, state) ∧
          (edited.read host state reading).1 = (interpreter.read host state reading).1 := by
  intro reader reading rereading
  refine ⟨?_, ?_, ?_⟩
  · intro first state second later quiet requiet
    refine ⟨quiet.exists_answered, requiet.exists_answered, ?_⟩
    intro view other answered reanswered alike
    rw [Interpreter.read_of_answered answered, Interpreter.read_of_answered reanswered,
      under_object, under_object, reader.outcome_congr alike]
  · intro first steps ending second more reending view other follows refollows alike
    rw [← follows.under, ← refollows.under, under_object, under_object, reader.outcome_congr alike]
  · intro interpreter state site place key value plain bare usable elsewhere
    have stored := (direct_store bare site usable value []).map fun _ => Signal.result []
    refine ⟨_, Interpreter.attempt_of_direct host interpreter state stored (by decide), ?_⟩
    have plainLater := isPlain_rawSet elsewhere plain value
    rw [read_of_isPlain host interpreter state reader previous table plain,
      reader.outcome_congr (readsAlike_rawSet elsewhere value) previous]
    have reread := congrArg Prod.fst (read_of_isPlain host
      { interpreter with heap := interpreter.heap.rawSet place key value } state reader previous
      table plainLater)
    exact reread

/-! Two tables of one song: the second is written with other values, and with more of them. -/

/-- A heap with the table of a song. -/
def song : Heap :=
  (({} : Heap).newTable (.ofEntries (Table.stringEntries
    [("objectType", .int 2), ("title", .ofString "99"), ("restricted", .bool true)]))).1

/-- A heap with a table of the same song, as far as it counts. -/
def songOtherwise : Heap :=
  (({} : Heap).newTable (.ofEntries (Table.stringEntries
    [("objectType", .int 2), ("title", .int 99), ("restricted", .ofString "no"),
      ("theora", .bool true), ("action", .ofString "play"), ("updateID", .int 5)]))).1

theorem property_song (name : String) :
    song.property 0 name =
      (Table.lastIn [("objectType", .int 2), ("title", .ofString "99"), ("restricted", .bool true)]
        name).getD .nil :=
  Table.get_ofEntries _ name

theorem property_songOtherwise (name : String) :
    songOtherwise.property 0 name =
      (Table.lastIn [("objectType", .int 2), ("title", .int 99), ("restricted", .ofString "no"),
        ("theora", .bool true), ("action", .ofString "play"), ("updateID", .int 5)]
        name).getD .nil :=
  Table.get_ofEntries _ name

theorem isPlain_song : IsPlain song 0 :=
  isPlain_of_isBare (.newTable Heap.isBare_empty _) 0

theorem isPlain_songOtherwise : IsPlain songOtherwise 0 :=
  isPlain_of_isBare (.newTable Heap.isBare_empty _) 0

theorem readsAlike_song : ReadsAlike .layout song.property 0 songOtherwise.property 0 := by
  have noEntries : ∀ key, metadataBytes song.property 0 key = [] := by
    intro key
    simp [metadataBytes, property_song, Value.propertyTable?]
  have noOtherEntries : ∀ key, metadataBytes songOtherwise.property 0 key = [] := by
    intro key
    simp [metadataBytes, property_songOtherwise, Value.propertyTable?]
  have same : ∀ name, name ∉ ["title", "restricted", "theora", "action", "updateID"] →
      songOtherwise.property 0 name = song.property 0 name := by
    intro name other
    simp only [List.mem_cons, not_or] at other
    simp [property_song, property_songOtherwise, @eq_comm String _ name, other]
  have title : (song.property 0 "title").propertyBytes =
      (songOtherwise.property 0 "title").propertyBytes := by
    rw [property_song, property_songOtherwise]
    decide
  have restricted : (song.property 0 "restricted").propertyFlag? =
      (songOtherwise.property 0 "restricted").propertyFlag? := by
    rw [property_song, property_songOtherwise]
    decide
  refine ⟨by rw [same _ (by decide)], ?_, ?_⟩
  · exact {
      id := by rw [same _ (by decide)]
      refId := by rw [same _ (by decide)]
      parentId := by rw [same _ (by decide)]
      title := title
      upnpClass := by rw [same _ (by decide)]
      restricted := restricted
      mtime := by rw [same _ (by decide)]
      sizeOnDisk := by rw [same _ (by decide)]
      location := by rw [same _ (by decide)]
      metadata := fun symbol _ => by rw [noEntries, noOtherEntries] }
  · intro created named
    have plain : created = .item {} := by
      rw [property_song] at named
      exact Option.some.inj (named.symm.trans (by decide))
    subst plain
    refine kindAlike_of_agree ?_
    intro name member
    refine same name ?_
    simp [kindNames] at member
    rcases member with rfl | rfl | rfl <;> decide

/-- A song is the same song in both tables, and assigning to the property for Ogg videos
does not change it. -/
theorem read_songOtherwise :
    let reader := Reader.ofConversions .layout ⟨.utf8, .utf8, .latin1, .utf8⟩
    let reading := reader.object none (some 0)
    let first : Interpreter := { heap := song }
    let second : Interpreter := { heap := songOtherwise }
    ReadsAlike .layout song.property 0 songOtherwise.property 0 ∧
      (first.read Importer.host ⟨.absent, {}⟩ reading).1 =
        (second.read Importer.host ⟨.absent, {}⟩ reading).1 ∧
      ∃ edited : Interpreter,
        first.attempt Importer.host ⟨.absent, {}⟩
            ((fun _ => .result []) <$> store none (.table 0) (.ofString "theora") (.int 1) []) =
          (.ok [], edited, ⟨.absent, {}⟩) ∧
        (edited.read Importer.host ⟨.absent, {}⟩ reading).1 =
          (first.read Importer.host ⟨.absent, {}⟩ reading).1 := by
  intro reader reading first second
  have answered := Interpreter.answered_of_plain Importer.host first ⟨.absent, {}⟩ reading
    askedNames (reader.asks_of_isPlain none isPlain_song)
  have reanswered := Interpreter.answered_of_plain Importer.host second ⟨.absent, {}⟩ reading
    askedNames (reader.asks_of_isPlain none isPlain_songOtherwise)
  obtain ⟨outside, -, assigned⟩ := read_alike Importer.host Importer.host .layout
    ⟨.utf8, .utf8, .latin1, .utf8⟩ none 0 0
  refine ⟨readsAlike_song, ?_, ?_⟩
  · exact (outside first _ second _ answered.quiet reanswered.quiet).2.2 song.property
      songOtherwise.property answered reanswered readsAlike_song
  · exact assigned first _ none 0 _ _ isPlain_song isPlain_song.outer rfl
      (not_counts_of_notMem (by decide))

end Reader

end MediaImport.Exchange
