import MediaImport.Importer.Basic
import MediaImport.Proofs.Exchange.RoundTrip

/-!
# An untouched table in a playlist context

What the entries of a playlist are called stands in the playlist, so a playlist context
reads what scripts hand back in the character set of playlists.  An object is shown in
internal text all the same, and nothing turns that into the other character set.  So a
text that the script has left alone is written as UTF-8 and read as whatever playlists
are written in, and that is what `Rereads` says of each of them.

Nothing is refused.  Under UTF-8 all texts come back as they were; under ISO 8859-1 those
do that are ASCII.  Only the description of an item has a way around this, because it is
taken from the item itself.
-/

namespace MediaImport.Exchange

open MediaImport.Media MediaImport.Script

/-- An object has come back with each text as it is when it is written and then read in a
character set. -/
structure Rereads (charset : Charset) (object back : Object) : Prop where
  title : back.title = charset.reread object.title
  upnpClass : back.upnpClass = charset.reread object.upnpClass
  /-- Of the recognised metadata, the description of an item comes back as it was. -/
  metadata : ∀ key ∈ MetadataKey.all.map Symbol.text, key ≠ MetadataKey.trackNumber →
    ∀ text, object.metadata[key]? = some text → text ≠ "" →
      back.metadata[key]? = some
        (if object.item?.isSome ∧ key = MetadataKey.description then text
        else charset.reread text)
  mimeType : back.item?.map Item.mimeType = object.item?.map (charset.reread ·.mimeType)
  serviceId : back.item?.map Item.serviceId = object.item?.map (charset.reread ·.serviceId)

namespace Reader

open ObjectTable

variable (reader : Reader) {object : Object} {view : Nat → String → Value} {table : Nat}

/-- A text that is shown, or left out because it is empty, and then read over the same
text. -/
theorem textOf?_getD (text : String) :
    (reader.textOf? (Bytes.ofString text)).getD text = reader.charset.reread text := by
  rw [textOf?_ofString]
  by_cases empty : text = ""
  · rw [if_pos empty, empty, Charset.reread_empty]
    rfl
  · rw [if_neg empty, Option.getD_some]

theorem getElem?_metadataWith_shows (shows : Shows view table (ofObject object)) {key text : String}
    (recognised : key ∈ MetadataKey.all.map Symbol.text) (other : key ≠ MetadataKey.trackNumber)
    (entry : object.metadata[key]? = some text) (present : text ≠ "") :
    (reader.metadataWith (metadataBytes view table) MetadataKey.all ∅)[key]? =
      some (reader.charset.reread text) := by
  rw [getElem?_metadataWith_all, if_pos ((MetadataKey.isRecognised_iff key).mpr recognised),
    metadataBytes_shows shows, shownMetadata_getD, if_neg other, entry, Option.getD_some,
    entryText_ofString, if_neg present, if_neg other]

theorem rereads_describedAs (shows : Shows view table (ofObject object)) :
    Rereads reader.charset object
      (reader.describedAs view table (some object) object.kind.emptied) := by
  have title : (reader.textOf? (view table "title").propertyBytes).getD object.title =
      reader.charset.reread object.title := by
    rw [shows.property _ (by decide), property_title, textOf?_getD]
  have upnpClass : (reader.textOf? (view table "upnpclass").propertyBytes).getD object.upnpClass =
      reader.charset.reread object.upnpClass := by
    rw [shows.property _ (by decide), property_upnpClass, textOf?_getD]
  have described : view table "description" = .nil := by
    rw [shows.property _ (by decide), property_eq_nil _ _ (by decide) (by decide)]
  cases kind : object.kind with
  | container contents =>
    have noItem : object.item? = none := by
      rw [Object.item?, kind]
      rfl
    exact {
      title
      upnpClass
      metadata := by
        intro key recognised other text entry present
        rw [noItem, if_neg (by simp)]
        exact reader.getElem?_metadataWith_shows shows recognised other entry present
      mimeType := by
        rw [noItem]
        rfl
      serviceId := by
        rw [noItem]
        rfl }
  | item contents =>
    have isItem : object.item? = some contents := by
      rw [Object.item?, kind]
      rfl
    have mimeType : (reader.textOf? (view table "mimetype").propertyBytes).getD
        contents.mimeType = reader.charset.reread contents.mimeType := by
      rw [shows.property _ (by decide), property_mimeType _ contents kind, textOf?_getD]
    have serviceId : (reader.textOf? (view table "serviceID").propertyBytes).getD
        contents.serviceId = reader.charset.reread contents.serviceId := by
      rw [shows.property _ (by decide), property_serviceId _ contents kind, textOf?_getD]
    have noText : reader.textOf? (view table "description").propertyBytes = none := by
      rw [described]
      rfl
    simp only [describedAs, Kind.emptied, itemObject_eq, noText]
    exact {
      title
      upnpClass
      metadata := by
        intro key recognised other text entry present
        have read := reader.getElem?_metadataWith_shows shows recognised other entry present
        rw [isItem, getElem?_withDescription]
        -- No table that is shown has a description, so that of the item takes its place.
        by_cases same : key = MetadataKey.description
        · rw [if_pos same, if_pos ⟨rfl, same⟩, Option.bind_some, ← same, entry]
          rfl
        · rw [if_neg same, if_neg (fun both => same both.2)]
          exact read
      mimeType := by
        rw [isItem]
        refine congrArg some ?_
        simpa [itemContents, isItem] using mimeType
      serviceId := by
        rw [isItem]
        refine congrArg some ?_
        simpa [itemContents, isItem] using serviceId }

variable {σ : Type} (host : Host σ) (interpreter : Interpreter) (state : σ)

/-- Handing back an untouched table in a playlist context succeeds, and each text comes back
as it is when it is written as UTF-8 and read in the character set of playlists.  That is
the same text if the character set is UTF-8 or the text is ASCII, and only then. -/
theorem read_untouched_playlist (conversions : Conversions) (object : Object) :
    let shown := (ObjectTable.ofObject object).allocate interpreter.heap
    (∃ back,
      Interpreter.read host { interpreter with heap := shown.1 } state
          ((Reader.ofConversions .playlist conversions).object (some object) (some shown.2)) =
        (.ok (some back), { interpreter with heap := shown.1 }, state) ∧
      Rereads conversions.playlist object back) ∧
    ∀ text, conversions.playlist.reread text = text ↔
      conversions.playlist = .utf8 ∨ ∀ character ∈ text.toList, character.toNat < 128 := by
  intro shown
  have shows := (ObjectTable.ofObject object).shows_allocate interpreter.heap
  refine ⟨⟨_, read_untouched host interpreter state _ object, ?_⟩, ?_⟩
  · exact rereads_describedAs (.ofConversions .playlist conversions) shows
  · exact conversions.playlist.reread_eq_self_iff

/-- The title of an item is one letter with an accent, and playlists are written in
ISO 8859-1: two characters come back. -/
theorem title_changed_in_playlist :
    let object : Object := { title := "\u00e9", kind := .item {} }
    let shown := (ObjectTable.ofObject object).allocate {}
    ∃ back,
      (Interpreter.read Importer.host { heap := shown.1 } ⟨.absent, {}⟩
        ((Reader.ofConversions .playlist ⟨.utf8, .utf8, .latin1, .utf8⟩).object (some object)
          (some shown.2))).1 = .ok (some back) ∧
      back.title = "\u00c3\u00a9" ∧ back.title ≠ object.title := by
  intro object shown
  let reader : Reader := .ofConversions .playlist ⟨.utf8, .utf8, .latin1, .utf8⟩
  have shows := (ObjectTable.ofObject object).shows_allocate {}
  have garbled : reader.charset.reread object.title = "\u00c3\u00a9" := by decide +kernel
  have title := (reader.rereads_describedAs shows).title.trans garbled
  have read := read_untouched Importer.host { heap := {} } ⟨.absent, {}⟩ reader object
  refine ⟨_, congrArg Prod.fst read, title, ?_⟩
  rw [title]
  decide

end Reader

end MediaImport.Exchange
