import MediaImport.Proofs.Exchange.DocumentedProperties

/-!
# Entries of playlists and imported objects

The purpose of a context decides two things about a table that is read: the character set
of its texts, and whether the track number of an item is its place in a playlist.  Under
UTF-8, and for texts that are all ASCII, the first makes no difference.  So a playlist
context finds the object that an import context finds, or nothing, or the same error,
except that an item is numbered by its place in the playlist.  The metadata entry for the
track number is not touched by that.

This is about answers.  A playlist context asks for one property more, and a metatable may
do something on that occasion, so two readings of one table need not be answered alike.
-/

namespace MediaImport

open Media Script

/-- An object in a place of a playlist: items are numbered by it. -/
def Media.Object.inPlaylist (object : Object) (place : Int32) : Object :=
  object.mapItem fun contents => { contents with trackNumber := place }

@[simp]
theorem Media.Object.metadata_inPlaylist (object : Object) (place : Int32) :
    (object.inPlaylist place).metadata = object.metadata := by
  unfold inPlaylist mapItem
  split <;> rfl

namespace Exchange.Reader

/-! ## Readers that decode alike -/

/-- Two readers take some bytes for the same texts. -/
def DecodesAlike (reader another : Reader) (decoded : List Bytes) : Prop :=
  ∀ contents ∈ decoded, reader.charset.decode contents = another.charset.decode contents

/-- What is read of a table, where items are numbered by its place in a playlist. -/
def listed (view : Nat → String → Value) (table : Nat)
    (found : Except Failure (Option Object)) : Except Failure (Option Object) :=
  found.map (Option.map (·.inPlaylist ((view table "playlistOrder").propertyInt32 0)))

/-- Numbering leaves the metadata as they are, and with them the entry for the number. -/
theorem map_metadata_listed (view : Nat → String → Value) (table : Nat)
    (found : Except Failure (Option Object)) :
    (listed view table found).map (Option.map Object.metadata) =
      found.map (Option.map Object.metadata) := by
  rcases found with failure | object
  · rfl
  · cases object <;> simp [listed, Except.map]

/-- All bytes that are decoded for the object that a table asks for are ASCII. -/
def IsAscii (view : Nat → String → Value) (table : Nat) : Prop :=
  ∀ created, Kind.ofType? ((view table "objectType").propertyInt32 (-1)) = some created →
    ∀ contents ∈ decodedFor view table created, ∀ byte ∈ contents, byte.toNat < 128

variable {reader another : Reader} {view : Nat → String → Value} {table : Nat} {created : Kind}

theorem textOf?_congr {contents : Bytes}
    (same : reader.charset.decode contents = another.charset.decode contents) :
    reader.textOf? contents = another.textOf? contents := by
  rw [textOf?, textOf?, same]

theorem checked_congr {α : Type} {decoded : List Bytes}
    (alike : DecodesAlike reader another decoded) (value : α) :
    reader.checked decoded value = another.checked decoded value := by
  have faults : decoded.findSome? reader.fault? = decoded.findSome? another.fault? := by
    induction decoded with
    | nil => rfl
    | cons contents decoded ih =>
      obtain ⟨first, rest⟩ := List.forall_mem_cons.mp alike
      rw [List.findSome?_cons, List.findSome?_cons, ih rest, fault?, fault?, first]
  rw [checked, checked, faults]

/-- A track number is never decoded, so all other entries have to be. -/
theorem entryText_congr {entries : String → Bytes} {keys : List Symbol}
    (alike : DecodesAlike reader another (decodedEntries entries keys)) :
    ∀ key ∈ keys, reader.entryText key.text (entries key.text) =
      another.entryText key.text (entries key.text) := by
  intro key member
  unfold entryText
  split
  · rfl
  split
  · rfl
  next other =>
    rw [alike]
    exact List.mem_map_of_mem (List.mem_filter.mpr ⟨member, decide_eq_true other⟩)

theorem commonObject_of_decodesAlike
    (alike : DecodesAlike reader another (decodedFor view table created))
    (previous : Option Object) (start : Object) :
    reader.commonObject view table previous start =
      another.commonObject view table previous start := by
  obtain ⟨common, -⟩ := List.forall_mem_append.mp alike
  obtain ⟨texts, entries⟩ := List.forall_mem_append.mp common
  have title := textOf?_congr (texts _ (List.mem_cons_self ..))
  have upnpClass := textOf?_congr (texts _ (List.mem_cons_of_mem _ (List.mem_cons_self ..)))
  have metadata := metadataWith_congr ∅ (entryText_congr entries)
  simp only [commonObject, title, upnpClass, metadata]

/-- What an item has is decoded, except for its number. -/
theorem itemObject_of_decodesAlike (purpose : reader.purpose = .playlist) {variant : Variant}
    (alike : DecodesAlike reader another (decodedItem view table variant))
    (previous : Option Object) (common : Object) :
    reader.itemObject view table previous variant common =
      (another.itemObject view table previous variant common).inPlaylist
        ((view table "playlistOrder").propertyInt32 0) := by
  obtain ⟨always, ofLink⟩ := List.forall_mem_append.mp alike
  simp only [List.forall_mem_cons] at always
  obtain ⟨mimeType, serviceId, description, -⟩ := always
  have mimeType := textOf?_congr mimeType
  have serviceId := textOf?_congr serviceId
  have description := textOf?_congr description
  have number : reader.trackNumberOf view table common.metadata =
      (view table "playlistOrder").propertyInt32 0 := by
    rw [trackNumberOf, purpose]
  cases isUrl : variant.isUrl with
  | false =>
    simp only [itemObject, itemContents, isUrl, mimeType, serviceId, description, number]
    rfl
  | true =>
    rw [isUrl] at ofLink
    have protocol := textOf?_congr (ofLink _ (List.mem_singleton_self _))
    simp only [itemObject, itemContents, asLink, isUrl, mimeType, serviceId, description,
      number, protocol]
    rfl

theorem describedAs_of_decodesAlike (purpose : reader.purpose = .playlist)
    (alike : DecodesAlike reader another (decodedFor view table created))
    (previous : Option Object) :
    reader.describedAs view table previous created =
      (another.describedAs view table previous created).inPlaylist
        ((view table "playlistOrder").propertyInt32 0) := by
  have common := commonObject_of_decodesAlike alike previous (.ofKind created)
  obtain ⟨-, own⟩ := List.forall_mem_append.mp alike
  cases created with
  | item contents =>
    simp only [describedAs, common]
    exact itemObject_of_decodesAlike purpose own previous _
  | container contents =>
    simp only [describedAs, common]
    rfl

/-- A playlist reader finds what another reader finds, in its place in the playlist. -/
theorem outcome_of_decodesAlike (purpose : reader.purpose = .playlist)
    (alike : ∀ created,
      Kind.ofType? ((view table "objectType").propertyInt32 (-1)) = some created →
        DecodesAlike reader another (decodedFor view table created))
    (previous : Option Object) :
    reader.outcome view table previous =
      listed view table (another.outcome view table previous) := by
  unfold outcome listed
  generalize (view table "objectType").propertyInt32 (-1) = requested at alike
  dsimp only
  split
  · rfl
  cases named : Kind.ofType? requested with
  | none => rfl
  | some created =>
    have alike := alike created named
    simp only [checked_map, Option.map_some, describedAs_of_decodesAlike purpose alike,
      checked_congr alike]

/-! ## Playlist contexts and import contexts -/

theorem decodesAlike_of_playlist {conversions : Conversions}
    (same : conversions.playlist = .utf8 ∨ IsAscii view table)
    (named : Kind.ofType? ((view table "objectType").propertyInt32 (-1)) = some created) :
    DecodesAlike (.ofConversions .playlist conversions) (.ofConversions .layout conversions)
      (decodedFor view table created) := by
  intro contents member
  rcases same with utf8 | ascii
  · exact congrArg (Charset.decode · contents) utf8
  · exact Charset.decode_eq_of_ascii _ _ (ascii created named contents member)

/-- Two tables that read alike in what counts for imported objects are the same object in
both kinds of context, up to its place in a playlist. -/
theorem outcome_playlist {conversions : Conversions} {other : Nat → String → Value} {twin : Nat}
    (alike : ReadsAlike .layout view table other twin)
    (same : conversions.playlist = .utf8 ∨ IsAscii other twin) (previous : Option Object) :
    (Reader.ofConversions .playlist conversions).outcome other twin previous =
      listed other twin
        ((Reader.ofConversions .layout conversions).outcome view table previous) := by
  rw [(Reader.ofConversions .layout conversions).outcome_congr alike]
  exact outcome_of_decodesAlike rfl (fun created named => decodesAlike_of_playlist same named) _

/-- Reading for a playlist is reading for import and numbering the item by its place.  That
holds of two readings that raise no error and are given the same answers, by the application
or by a running script, and so of every plain table, if playlists are written in UTF-8 or
all that is decoded is ASCII.  The metadata are the same in both. -/
theorem read_for_playlist {σ τ : Type} (host : Host σ) (another : Host τ)
    (conversions : Conversions) (previous : Option Object) (table twin : Nat) :
    let reading := (Reader.ofConversions .layout conversions).object previous (some table)
    let rereading := (Reader.ofConversions .playlist conversions).object previous (some twin)
    (∀ (first : Interpreter) (state : σ) (second : Interpreter) (later : τ),
      Interpreter.Quiet host reading first state →
      Interpreter.Quiet another rereading second later →
        (∃ view, Interpreter.Answered host view reading first state) ∧
        (∃ other, Interpreter.Answered another other rereading second later) ∧
        ∀ view other, Interpreter.Answered host view reading first state →
          Interpreter.Answered another other rereading second later →
          ReadsAlike .layout view table other twin →
          conversions.playlist = .utf8 ∨ IsAscii other twin →
          (second.read another later rereading).1 =
            listed other twin (first.read host state reading).1) ∧
    (∀ first steps ending second more reending view other,
      Config.FollowsIn host view reading first steps ending →
      Config.FollowsIn another other rereading second more reending →
      ReadsAlike .layout view table other twin →
      conversions.playlist = .utf8 ∨ IsAscii other twin →
        reending.under other = listed other twin (ending.under view)) ∧
    (∀ (interpreter : Interpreter) (state : σ), IsPlain interpreter.heap twin →
      conversions.playlist = .utf8 ∨ IsAscii interpreter.heap.property twin →
        (interpreter.read host state rereading).1 =
          listed interpreter.heap.property twin
            (interpreter.read host state
              ((Reader.ofConversions .layout conversions).object previous (some twin))).1) ∧
    ∀ view found, (listed view twin found).map (Option.map Object.metadata) =
      found.map (Option.map Object.metadata) := by
  intro reading rereading
  refine ⟨?_, ?_, ?_, fun view => map_metadata_listed view twin⟩
  · intro first state second later quiet requiet
    refine ⟨quiet.exists_answered, requiet.exists_answered, ?_⟩
    intro view other answered reanswered alike same
    rw [Interpreter.read_of_answered answered, Interpreter.read_of_answered reanswered,
      under_object, under_object]
    exact outcome_playlist alike same previous
  · intro first steps ending second more reending view other follows refollows alike same
    rw [← follows.under, ← refollows.under, under_object, under_object]
    exact outcome_playlist alike same previous
  · intro interpreter state plain same
    rw [read_of_isPlain host interpreter state _ previous twin plain,
      read_of_isPlain host interpreter state _ previous twin plain]
    exact outcome_playlist (readsAlike_of_agree (fun _ _ => rfl) fun _ _ _ _ => rfl) same previous

/-! A track of an album that stands in a playlist. -/

/-- A heap with a table for the fifth track of an album, the seventh entry of a playlist. -/
def albumTrack : Heap :=
  let (heap, metadata) := ({} : Heap).newTable
    (.ofEntries (Table.stringEntries [(MetadataKey.trackNumber, .ofString "5/12")]))
  (heap.newTable (.ofEntries (Table.stringEntries
    [("objectType", .int 2), ("title", .ofString "Song"), ("meta", .table metadata),
      ("playlistOrder", .int 7)]))).1

/-- The track under a number. -/
def numberedTrack (number : Int32) : Object where
  title := "Song"
  isVirtual := true
  metadata := (∅ : TextMap).insert MetadataKey.trackNumber "5/12"
  kind := .item { trackNumber := number }

theorem isPlain_albumTrack : IsPlain albumTrack 1 :=
  isPlain_of_isBare (.newTable (.newTable Heap.isBare_empty _) _) 1

theorem isAscii_albumTrack : IsAscii albumTrack.property 1 := by
  have item : Kind.ofType? ((albumTrack.property 1 "objectType").propertyInt32 (-1)) =
      some (.item {}) := by
    decide +kernel
  have ascii : ∀ contents ∈ decodedFor albumTrack.property 1 (.item {}), ∀ byte ∈ contents,
      byte.toNat < 128 := by
    decide +kernel
  intro created named
  rwa [← Option.some.inj (item.symm.trans named)]

theorem listed_numberedTrack :
    listed albumTrack.property 1 (.ok (some (numberedTrack 5))) =
      .ok (some (numberedTrack 7)) := by
  decide +kernel

/-- The track has the number of the album where it is imported and that of the playlist where
it is listed, although playlists are written in ISO 8859-1. -/
theorem read_albumTrack_for_playlist :
    let reading (purpose : Purpose) : Reading (Option Object) :=
      (Reader.ofConversions purpose ⟨.utf8, .utf8, .latin1, .utf8⟩).object none (some 1)
    let interpreter : Interpreter := { heap := albumTrack }
    let desk : Importer.Desk := ⟨.absent, {}⟩
    ((interpreter.read Importer.host desk (reading .layout)).1 = .ok (some (numberedTrack 5)) ∧
      (interpreter.read Importer.host desk (reading .playlist)).1 =
        .ok (some (numberedTrack 7))) ∧
    ∃ (first : Config Importer.Desk) (steps : Nat) (second : Config Importer.Desk) (more : Nat)
      (reending : Reading (Option Object)),
      Config.FollowsIn Importer.host albumTrack.property (reading .layout) first steps
        (.done (some (numberedTrack 5))) ∧
      Config.FollowsIn Importer.host albumTrack.property (reading .playlist) second more
        reending ∧
      reending.under albumTrack.property = .ok (some (numberedTrack 7)) := by
  intro reading interpreter desk
  obtain ⟨outside, inside, -⟩ := read_for_playlist Importer.host Importer.host
    ⟨.utf8, .utf8, .latin1, .utf8⟩ none 1 1
  have alike : ReadsAlike .layout albumTrack.property 1 albumTrack.property 1 :=
    readsAlike_of_agree (fun _ _ => rfl) fun _ _ _ _ => rfl
  have same : Charset.latin1 = .utf8 ∨ IsAscii albumTrack.property 1 := .inr isAscii_albumTrack
  have asks : ∀ purpose, (reading purpose).Asks _ _ _ :=
    fun _ => Reader.asks_of_isPlain _ none isPlain_albumTrack
  have answered : ∀ purpose, Interpreter.Answered Importer.host albumTrack.property
      (reading purpose) interpreter desk :=
    fun purpose => interpreter.answered_of_plain _ desk _ askedNames (asks purpose)
  have imported : (reading .layout).under albumTrack.property = .ok (some (numberedTrack 5)) :=
    (under_object _ _ _ _).trans (by decide +kernel)
  have read := (Interpreter.read_of_answered (answered .layout)).trans imported
  have reread := (outside interpreter desk interpreter desk (answered .layout).quiet
    (answered .playlist).quiet).2.2 _ _ (answered .layout) (answered .playlist) alike same
  rw [read, listed_numberedTrack] at reread
  refine ⟨⟨read, reread⟩, ?_⟩
  have listed := (Interpreter.read_of_answered (answered .playlist)).symm.trans reread
  obtain ⟨first, steps, -, follows⟩ :=
    Config.exists_followsIn_of_plain _ desk (reading .layout) askedNames (asks _) imported
  obtain ⟨second, more, -, refollows⟩ :=
    Config.exists_followsIn_of_plain _ desk (reading .playlist) askedNames (asks _) listed
  refine ⟨first, steps, second, more, _, follows, refollows, ?_⟩
  exact (inside _ _ _ _ _ _ _ _ follows refollows alike same).trans listed_numberedTrack

/-! A table that notices whether it is read for a playlist. -/

/-- A script whose table has a state once its place in a playlist was asked for. -/
def noticing : String :=
  "local asked = false\n" ++
  "local function answer(_, name)\n" ++
  "  if name == 'playlistOrder' then asked = true end\n" ++
  "  if name == 'state' and asked then return 'asked' end\n" ++
  "end\n" ++
  "orig = setmetatable(\x7bobjectType = OBJECT_TYPE_ACTIVE_ITEM\x7d, \x7b__index = answer\x7d)"

/-- The table, and the interpreter in which the script has run. -/
def noticed : Except Failure Value × Interpreter × Importer.Desk :=
  let work : Importer.Work Value := do
    Importer.Work.load "s.lua" noticing
    Importer.Work.runProgram
    Importer.Work.global "orig"
  work.run (Importer.prepared (.ofTexts fun _ => ""), ⟨.absent, {}⟩)

/-- An active item with a state. -/
def activeItem (state : String) : Object where
  isVirtual := true
  kind := .item { variant := .active { state } }

set_option maxRecDepth 100000 in
/-- One table is read for import and for a playlist, from the same interpreter and without an
error.  What comes back differs in the state. -/
theorem state_differs_in_playlist :
    let read (purpose : Purpose) : Except Failure (Option Object) :=
      (noticed.2.1.read Importer.host noticed.2.2
        ((Reader.ofConversions purpose ⟨.utf8, .utf8, .utf8, .utf8⟩).object none (some 10))).1
    noticed.1 = .ok (.table 10) ∧
      read .layout = .ok (some (activeItem "")) ∧
      read .playlist = .ok (some (activeItem "asked")) ∧
      ∀ place, read .playlist ≠ (read .layout).map (Option.map (·.inPlaylist place)) := by
  intro read
  -- The script is evaluated once for all three.
  have ⟨left, imported, listed⟩ : noticed.1 = .ok (.table 10) ∧
      read .layout = .ok (some (activeItem "")) ∧
      read .playlist = .ok (some (activeItem "asked")) := by
    decide +kernel
  refine ⟨left, imported, listed, ?_⟩
  intro place same
  rw [imported, listed] at same
  have commands := congrArg Object.command? (Option.some.inj (Except.ok.inj same))
  exact absurd (congrArg Command.state (Option.some.inj commands)) (by decide)

end Exchange.Reader

end MediaImport
