import MediaImport.Proofs.Importer.RepeatedCopies

/-!
# Adding a copy in place of the original

A script that processes an object may add the table it was given, or a copy of it.  The copy
is read and shown without the object, and so has lost its flags, auxiliary texts and
resources.  But what the script adds is read once more, over the object that is being
processed, and there everything that was lost is still at hand.

So both ways the same is stored.  The one difference is an item that has no number of its own
but a track with a number at its front, such as `5/12`: the copy shows the number alone.  A
time before the epoch would differ too, because no copy keeps it; all times that are not
negative come back.
-/

namespace MediaImport.Importer

open MediaImport.Exchange MediaImport.Media MediaImport.Script

/-- While some object is processed for import, untouched tables come back as another object,
whether the application reads them or a script adds them. -/
structure ComesBackAs (processed : Object) (shown : ObjectTable) (back : Object) : Prop where
  read : ∀ (interpreter : Interpreter) (desk : Desk) (conversions : Conversions) (table : Nat),
    shown.Stands interpreter.heap table →
      interpreter.read host desk ((Reader.ofConversions .layout conversions).object
        (some processed) (some table)) = (.ok (some back), interpreter, desk)
  adds : ∀ (call : Config Desk) (arguments : List Value) (conversions : Conversions) (table : Nat)
    (chain : String) (upnpClass : Option String),
    Begins call arguments → Value.first arguments = .table table →
    shown.Stands call.heap table → Texts arguments chain upnpClass →
    call.state.Surrounds ⟨.layout, conversions, some processed⟩ → call.HasRoom →
      ∃ read, call.OverAfter host (1 + read + 1) ∧
        Adds call ⟨.layout, conversions, some processed⟩ arguments read back chain upnpClass

variable {object : Object}

theorem comesBackAs_of_under {shown : ObjectTable} {back : Object}
    (comes : ∀ {view : Nat → String → Value} {table : Nat}, ObjectTable.Shows view table shown →
      (Reader.internal.object (some object) (some table)).under view = .ok (some back)) :
    ComesBackAs object shown back where
  read interpreter desk conversions table stands := by
    rw [Reader.read_of_isPlain _ _ _ _ _ _ stands.isPlain, ← Reader.under_object,
      Reader.ofConversions_layout, comes stands.shows]
  adds call arguments conversions table chain upnpClass begins given stands texts surrounds
      room := by
    refine addObject_succeeds_of_plain begins surrounds ?_ room texts ?_
    · rintro _ own
      rw [given] at own
      obtain rfl := Option.some.inj own
      exact stands.isPlain
    · rw [readingOf, given]
      exact comes stands.shows

/-- The object comes back from its own tables. -/
theorem comesBackAs_handedBack (object : Object) :
    ComesBackAs object (ObjectTable.ofObject object) object.handedBack := by
  refine comesBackAs_of_under ?_
  intro view table shows
  rw [Reader.under_object, Reader.outcome_shows shows, Reader.describedAs_handedBack shows]

/-- What comes back from the tables of a copy. -/
theorem comesBackAs_of_copy (nonneg : 0 ≤ object.mtime) :
    ComesBackAs object (ObjectTable.ofObject object.recovered)
      { object.handedBack with metadata := ObjectTable.shownMetadata object.handedBack } := by
  refine comesBackAs_of_under ?_
  intro view table shows
  have emptied : object.recovered.kind.emptied = object.kind.emptied :=
    Reader.emptied_kindBack object
  have mtime : max object.mtime 0 = object.mtime :=
    (Reader.greater_zero object.mtime).trans (if_pos nonneg)
  rw [Reader.under_object, Reader.outcome_shows shows, emptied, Reader.describedAs_copy shows,
    mtime]
  rfl

/-- A script that copies the table of the processed object gets tables that come back as the
object's own tables do, whether they are read or added: in every field, but for the track of an
item that has no number of its own.  Its entry becomes the number at the front of it. -/
theorem addObject_copy (nonneg : 0 ≤ object.mtime) :
    (∀ (call : Config Desk) (table : Nat),
      CopiesUntouched call table (ObjectTable.ofObject object) → call.HasRoom →
        ∃ steps copied, ShowsAfter call steps copied (ObjectTable.ofObject object.recovered)) ∧
    ComesBackAs object (ObjectTable.ofObject object) object.handedBack ∧
    ∃ copiedBack,
      ComesBackAs object (ObjectTable.ofObject object.recovered) copiedBack ∧
      (¬object.IsNumberedByTrack → copiedBack = object.handedBack) ∧
      (object.IsNumberedByTrack →
        object.handedBack.metadata[MetadataKey.trackNumber]? =
            object.metadata[MetadataKey.trackNumber]? ∧
          copiedBack = { object.handedBack with
            metadata := object.handedBack.metadata.insert MetadataKey.trackNumber
              (toString (Reader.trackNumber object.metadata).toInt) }) := by
  refine ⟨fun call table untouched room => untouched.shows room, comesBackAs_handedBack object,
    _, comesBackAs_of_copy nonneg, ?_, ?_⟩
  · intro unnumbered
    rw [Object.shownMetadata_handedBack_of_not unnumbered]
  · intro numbered
    obtain ⟨entry, shown⟩ := numbered.shownMetadata_handedBack
    exact ⟨entry, by rw [shown]⟩

/-- A song with a track that says how many there are, and no number of its own. -/
def fifthSong : Object where
  title := "Song"
  metadata := (∅ : TextMap).insert MetadataKey.trackNumber "5/12"
  kind := .item {}

/-- Where the song is processed for import. -/
def fifthSongDesk : Desk :=
  ⟨{ purpose := .layout, conversions := ⟨.utf8, .utf8, .utf8, .utf8⟩, processed := some fifthSong },
    {}⟩

/-- The table of the song is copied, and the copy is added: its track is the number alone. -/
theorem addObject_copy_fifthSong :
    let shown := (ObjectTable.ofObject fifthSong).allocate {}
    let copying := copying shown.1 fifthSongDesk.environment shown.2
    ∃ steps copied read,
      (copying.after host steps).focus = .done (.result [.table copied]) ∧
      let adding : Config Desk := {
        focus := Signal.result <$> addObject [.table copied, .ofString "/Music"]
        heap := (copying.after host steps).heap
        threads := ∅
        state := fifthSongDesk }
      adding.OverAfter host (1 + read + 1) ∧
      ∃ back : Object, back.metadata[MetadataKey.trackNumber]? = some "5" ∧
        fifthSong.handedBack.metadata[MetadataKey.trackNumber]? = some "5/12" ∧
        Adds adding fifthSongDesk.environment.surroundings [.table copied, .ofString "/Music"]
          read back "/Music" none := by
  intro shown copying
  have numbered : fifthSong.IsNumberedByTrack := ⟨{}, rfl, by decide, by decide +kernel⟩
  have leading : toString (Reader.trackNumber fifthSong.metadata).toInt = "5" := by
    decide +kernel
  have written : fifthSong.metadata[MetadataKey.trackNumber]? = some "5/12" := by
    decide +kernel
  have begun : CopiesUntouched copying shown.2 (ObjectTable.ofObject fifthSong) :=
    ⟨⟨_, rfl, rfl⟩, ⟨_, _, rfl⟩, ObjectTable.stands_allocate _ _⟩
  obtain ⟨copies, -, back, comes, -, exception⟩ :=
    addObject_copy (show 0 ≤ fifthSong.mtime by decide)
  obtain ⟨steps, copied, shows⟩ := copies copying shown.2 begun
    ⟨Nat.zero_lt_succ _, Nat.zero_lt_succ _⟩
  obtain ⟨entry, rfl⟩ := exception numbered
  have texts : Texts [.table copied, .ofString "/Music"] "/Music" none :=
    ⟨.text rfl, by decide, none, .nothing, rfl⟩
  let adding : Config Desk := {
    focus := Signal.result <$> addObject [.table copied, .ofString "/Music"]
    heap := (copying.after host steps).heap
    threads := ∅
    state := fifthSongDesk }
  have begins : Begins adding [.table copied, .ofString "/Music"] := rfl
  obtain ⟨read, isOver, adds⟩ := comes.adds adding _ _ copied "/Music" none begins rfl
    shows.stands texts rfl ⟨Nat.zero_lt_succ _, Nat.zero_lt_succ _⟩
  refine ⟨steps, copied, read, shows.answers, isOver, _, ?_, entry.trans written, adds⟩
  rw [Std.ExtTreeMap.getElem?_insert_self, leading]

end MediaImport.Importer
