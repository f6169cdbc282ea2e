import MediaImport.Proofs.Exchange.CopiedObject
import MediaImport.Proofs.Importer.CopyingCall

/-!
# Copying a copy

A script may copy any table that describes an object, and its copies again.  In an import
context the first copy puts in order whatever the script or its metatables have answered, and
there is nothing left to put in order for the second: it succeeds wherever the first one had
room, and its four tables have the same contents.

The one exception is a link whose table names a protocol other than plain HTTP.  The protocol
is not among the properties that are shown, so the second copy names plain HTTP.

`copyObject_again` says so of any two calls, whatever the script does in between, as long as it
leaves the copy alone.
-/

namespace MediaImport.Importer

open MediaImport.Exchange MediaImport.Media MediaImport.Script

/-- Two lots of tables show the same but for the resource of a link: one of them names some
protocol for it, and the other names plain HTTP instead. -/
structure DiffersInProtocol (once twice : ObjectTable) (mimeType protocol : String) : Prop where
  named : once.resource = (∅ : TextMap).insert "protocolInfo" (protocolInfo mimeType protocol)
  renamed : twice = { once with
    resource := (∅ : TextMap).insert "protocolInfo" (protocolInfo mimeType "http-get") }
  differs : twice.resource ≠ once.resource

/-- A call comes back with a table, and what is shown stands in it and in the tables inside. -/
structure ShowsAfter (call : Config Desk) (steps : Nat) (copied : Nat) (shown : ObjectTable) :
    Prop where
  isOver : call.OverAfter host steps
  answers : (call.after host steps).focus = .done (.result [.table copied])
  stands : shown.Stands (call.after host steps).heap copied

/-- A call copies untouched tables in an import context, whatever object is processed. -/
structure CopiesUntouched (call : Config Desk) (table : Nat) (shown : ObjectTable) : Prop where
  begins : ∃ arguments, BeginsCopy call arguments ∧ Value.first arguments = .table table
  surrounds : ∃ conversions processed, call.state.Surrounds ⟨.layout, conversions, processed⟩
  stands : shown.Stands call.heap table

variable {call again : Config Desk} {arguments : List Value} {conversions : Conversions}
  {processed : Option Object}

/-- In an import context only the table matters to what is read. -/
theorem readingOf_alone {table : Nat} (given : Value.first arguments = .table table) :
    readingOf (alone ⟨.layout, conversions, processed⟩) arguments =
      Reader.internal.object none (some table) := by
  rw [readingOf, given]
  rfl

theorem Copies.showsAfter {surroundings : Surroundings} {read : Nat} {object : Object}
    (isOver : call.OverAfter host (1 + read + 2))
    (copies : Copies call surroundings arguments read object) :
    ∃ copied, ShowsAfter call (1 + read + 2) copied (ObjectTable.ofObject object) := by
  refine ⟨_, isOver, copies.answers, ?_⟩
  rw [copies.heap]
  exact ObjectTable.stands_allocate _ _

/-- An untouched copy can be copied wherever there is room. -/
theorem CopiesUntouched.shows {copied : Nat} {object : Object}
    (copies : CopiesUntouched again copied (ObjectTable.ofObject object)) (room : again.HasRoom) :
    ∃ steps recopied,
      ShowsAfter again steps recopied (ObjectTable.ofObject object.recovered) := by
  obtain ⟨⟨arguments, begins, given⟩, ⟨conversions, processed, surrounds⟩, stands⟩ := copies
  have plain : TableIsPlain again arguments := by
    rintro table own
    rw [given] at own
    obtain rfl := Option.some.inj own
    exact stands.isPlain
  have described : (readingOf (alone ⟨.layout, conversions, processed⟩) arguments).under
      again.heap.property = .ok (some object.recovered) := by
    rw [readingOf_alone given]
    exact Reader.under_shown_alone stands.shows
  obtain ⟨read, isOver, copies, -⟩ :=
    copyObject_succeeds_of_plain begins surrounds plain room described
  obtain ⟨recopied, shows⟩ := copies.showsAfter isOver
  exact ⟨_, recopied, shows⟩

/-- A call that copies an object in an import context fails, or shows in new tables what the
given table describes.  The answers of that table decide what is shown, and the object that is
processed does not: up to where the reading begins, the call is the same at any other desk.

Copying the new tables succeeds as long as no more calls are waiting, and shows the same again,
unless the given table names a protocol other than plain HTTP for a link. -/
theorem copyObject_again {steps : Nat} (begins : BeginsCopy call arguments)
    (surrounds : call.state.Surrounds ⟨.layout, conversions, processed⟩)
    (isOver : call.OverAfter host steps) :
    (∀ (desk : Desk) (others : Conversions) (other : Option Object),
      desk.Surrounds ⟨.layout, others, other⟩ →
        ({ call with state := desk } : Config Desk).step host =
          { call.step host with state := desk }) ∧
    (call.Fails host steps ∨ ∃ source view read object copied,
      Value.first arguments = .table source ∧
      Config.FollowsIn host view (Reader.internal.object none (some source)) (call.after host 1)
        read (.done (some object)) ∧
      (Reader.internal.object none (some source)).under view = .ok (some object) ∧
      ShowsAfter call steps copied (ObjectTable.ofObject object) ∧
      ∀ again : Config Desk, CopiesUntouched again copied (ObjectTable.ofObject object) →
        again.depth ≤ call.depth → again.nesting ≤ call.nesting →
        ∃ more recopied twice, ShowsAfter again more recopied twice ∧
          if object.kind.isUrl = true ∧ Reader.protocolOf view source ≠ "http-get" then
            ∃ item, object.item? = some item ∧
              DiffersInProtocol (ObjectTable.ofObject object) twice item.mimeType
                (Reader.protocolOf view source)
          else twice = ObjectTable.ofObject object) := by
  constructor
  · intro desk others other elsewhere
    obtain ⟨-, stepped⟩ := begins.step surrounds
    have beginsThere : BeginsCopy { call with state := desk } arguments := begins
    obtain ⟨-, there⟩ := beginsThere.step elsewhere
    rw [there, stepped]
    rfl
  rcases copyObject_work begins surrounds isOver with fails | ⟨read, object, rfl, copies⟩
  · exact .inl fails
  obtain ⟨source, view, given, inView, came⟩ := copies.exists_view
  rw [readingOf_alone given] at inView
  obtain ⟨copied, shows⟩ := copies.showsAfter isOver
  refine .inr ⟨source, view, read, object, copied, given, inView, came, shows, ?_⟩
  intro again untouched depth nesting
  have room := copies.hasRoom begins surrounds
  obtain ⟨more, recopied, showsAgain⟩ := untouched.shows
    ⟨Nat.lt_of_le_of_lt depth room.depth, Nat.lt_of_le_of_lt nesting room.nesting⟩
  refine ⟨more, recopied, _, showsAgain, ?_⟩
  split
  · next exception =>
    obtain ⟨link, named⟩ := exception
    obtain ⟨item, isItem⟩ := Reader.isSome_item?_of_isUrl link
    have once := Reader.resource_of_link came link isItem
    have twice := Reader.ofObject_recovered_of_link came link isItem
    refine ⟨item, isItem, once, twice, ?_⟩
    intro same
    rw [twice, once] at same
    exact named (Reader.attributes_linkResource_inj same).symm
  · next plain =>
    exact Reader.ofObject_recovered_of_under came fun link => not_not.mp fun named =>
      plain ⟨link, named⟩

/-- A table of a link, with a protocol of its own. -/
def streamTable : Heap :=
  (({} : Heap).newTable (.ofEntries (Table.stringEntries
    [("objectType", .int 10), ("mimetype", .ofString "video/mp4"),
      ("protocol", .ofString "rtsp")]))).1

/-- The link, as it is read from the table. -/
def stream : Object where
  restricted := true
  isVirtual := true
  resources := [Reader.linkResource "video/mp4" "rtsp"]
  kind := .item { mimeType := "video/mp4", variant := .externalUrl }

theorem under_streamTable :
    (Reader.internal.object none (some 0)).under streamTable.property = .ok (some stream) :=
  (Reader.under_object _ _ _ _).trans (by decide +kernel)

theorem resource_stream :
    (ObjectTable.ofObject stream).resource =
      (Reader.linkResource "video/mp4" "rtsp").attributes := rfl

/-- The link is copied, and its copy again; the second time its resource names plain HTTP. -/
theorem copyObject_again_stream :
    let call := copying streamTable .absent 0
    ∃ steps copied more recopied,
      ShowsAfter call steps copied (ObjectTable.ofObject stream) ∧
      ShowsAfter (copying (call.after host steps).heap .absent copied) more recopied
        { ObjectTable.ofObject stream with
          resource := (∅ : TextMap).insert "protocolInfo" "http-get:*:video/mp4:*" } := by
  intro call
  have plain : IsPlain streamTable 0 := isPlain_of_isBare (.newTable Heap.isBare_empty _) 0
  obtain ⟨read, isOver, copies, -⟩ :=
    copying_succeeds .absent plain under_streamTable
  have begins : BeginsCopy call [.table 0] := rfl
  rcases (copyObject_again begins rfl isOver).2 with ⟨⟨error, stopped⟩, -⟩ |
    ⟨source, view, again, object, copied, given, inView, came, shows, later⟩
  · rw [copies.answers] at stopped
    cases stopped
  cases given
  obtain ⟨rfl, same⟩ := copies.reads.unique inView.follows
  obtain rfl := Option.some.inj same
  have isItem : stream.item? = some { mimeType := "video/mp4", variant := .externalUrl } := rfl
  have named := Reader.resource_of_link came rfl isItem
  rw [resource_stream] at named
  have protocol : Reader.protocolOf view 0 = "rtsp" :=
    (Reader.attributes_linkResource_inj named).symm
  obtain ⟨more, recopied, twice, showsAgain, rest⟩ :=
    later (copying (call.after host (1 + read + 2)).heap .absent copied)
      ⟨⟨_, rfl, rfl⟩, ⟨_, _, rfl⟩, shows.stands⟩ (Nat.zero_le _) (Nat.zero_le _)
  rw [if_pos ⟨rfl, by rw [protocol]; decide⟩] at rest
  obtain ⟨item, isItem, differs⟩ := rest
  cases isItem
  rw [differs.renamed] at showsAgain
  exact ⟨_, copied, more, recopied, shows, showsAgain⟩

end MediaImport.Importer
