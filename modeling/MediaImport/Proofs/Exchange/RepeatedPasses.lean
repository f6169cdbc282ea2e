import Mathlib.Logic.Function.Iterate
import MediaImport.Proofs.Exchange.RoundTrip
import MediaImport.Proofs.Text.LeadingWord

/-!
# Importing an object again and again

An object that came back from an untouched table may be shown again, and again come back
untouched.  What the first pass clamps, drops or adds is in order from then on, and the
second pass finds nothing of it to do.  One thing takes two passes: the first one takes
the track number of an item from its text, and only the second one writes the text anew
from the number, so that `5/12` becomes `5`.

`Object.handedBack_handedBack` says that this is all that the second pass does, and to do
it twice is to do it once.
-/

namespace MediaImport.Media

open MediaImport.Exchange

@[simp]
theorem Object.isUrl_kindBack (object : Object) : object.kindBack.isUrl = object.kind.isUrl := by
  unfold Object.kindBack
  cases object.kind <;> rfl

namespace Object

variable (object : Object)

theorem item?_handedBack :
    object.handedBack.item? =
      object.item?.map fun contents => { contents with trackNumber := object.leadingTrack } := by
  unfold item? handedBack kindBack
  cases object.kind <;> rfl

theorem getElem?_handedBack_trackNumber :
    object.handedBack.metadata[MetadataKey.trackNumber]? =
      if 0 < object.leadingTrack then some object.trackText else none := by
  rw [handedBack, getElem?_metadataBack, if_pos rfl]

/-- After a pass scripts see the number of an item as its track, and the same track as
before of a container. -/
theorem trackText_handedBack :
    object.handedBack.trackText =
      if 0 < object.leadingTrack then
        if object.item?.isSome then toString object.leadingTrack.toInt else object.trackText
      else "" := by
  rw [trackText, item?_handedBack, getElem?_handedBack_trackNumber]
  cases object.item? with
  | none => by_cases positive : 0 < object.leadingTrack <;> simp [positive]
  | some contents => by_cases positive : 0 < object.leadingTrack <;> simp [positive]

theorem leadingTrack_eq_zero {object : Object} (missing : ¬0 < object.leadingTrack) :
    object.leadingTrack = 0 := by
  unfold leadingTrack at missing ⊢
  dsimp only at missing ⊢
  split at missing
  · next positive => exact absurd positive missing
  · next none => rw [if_neg none]

/-- The number at the front of the track stays as it is. -/
theorem leadingTrack_handedBack : object.handedBack.leadingTrack = object.leadingTrack := by
  by_cases positive : 0 < object.leadingTrack
  · by_cases isItem : object.item?.isSome = true
    -- Scripts see the number itself; a container has none, and its text is still the same.
    · have read : (Text.Integer.leading? object.handedBack.trackText).getD 0 =
          object.leadingTrack := by
        rw [trackText_handedBack, if_pos positive, if_pos isItem,
          Text.Integer.leading?_toString_toInt, Option.getD_some]
      rw [leadingTrack, read, if_pos positive]
    · rw [leadingTrack, trackText_handedBack, if_pos positive, if_neg isItem]
      rfl
  · rw [leadingTrack_eq_zero positive, leadingTrack, trackText_handedBack, if_neg positive]
    decide

theorem getElem?_handedBack_of_ne {key : String} (other : key ≠ MetadataKey.trackNumber) :
    object.handedBack.metadata[key]? =
      if MetadataKey.isRecognised key then
        object.metadata[key]?.filter fun text =>
          text != "" || object.item?.isSome && key == MetadataKey.description
      else none := by
  rw [handedBack, getElem?_metadataBack, if_neg other]

/-- The metadata that come back the second time are those that are shown. -/
theorem metadata_handedBack_handedBack :
    object.handedBack.handedBack.metadata = ObjectTable.shownMetadata object.handedBack := by
  have shown : ObjectTable.shownMetadata object.handedBack =
      if object.item?.isSome ∧ 0 < object.leadingTrack then
        object.handedBack.metadata.insert MetadataKey.trackNumber
          (toString object.leadingTrack.toInt)
      else object.handedBack.metadata := by
    rw [ObjectTable.shownMetadata, item?_handedBack]
    cases object.item? with
    | none => simp
    | some contents => simp
  apply Std.ExtTreeMap.ext_getElem?
  intro key
  rw [shown]
  -- The track alone is written anew.  What has passed the filter once passes it again.
  by_cases track : key = MetadataKey.trackNumber
  · rw [track, getElem?_handedBack_trackNumber, leadingTrack_handedBack, trackText_handedBack]
    by_cases positive : 0 < object.leadingTrack
    · by_cases isItem : object.item?.isSome = true
      · simp [positive, isItem]
      · simp [positive, isItem, getElem?_handedBack_trackNumber]
    · simp [positive, getElem?_handedBack_trackNumber]
  · have once := object.getElem?_handedBack_of_ne track
    have unchanged : object.handedBack.handedBack.metadata[key]? =
        object.handedBack.metadata[key]? := by
      rw [getElem?_handedBack_of_ne _ track, once, item?_handedBack, Option.isSome_map]
      cases MetadataKey.isRecognised key with
      | false => rfl
      | true => simp only [if_true, Option.filter_filter, Bool.and_self]
    rw [unchanged]
    split
    · simp [Std.ExtTreeMap.getElem?_insert, Ne.symm track]
    · rfl

/-- A bound that a number keeps already changes nothing. -/
theorem max_max_self {α : Type} [LE α] [DecidableLE α] (number bound : α) :
    let _ : Max α := maxOfLe
    max (max number bound) bound = max number bound := by
  change (if (if _ then _ else _) ≤ _ then _ else (if _ then _ else _)) = if _ then _ else _
  by_cases below : number ≤ bound <;> simp [below]

theorem min_min_self {α : Type} [LE α] [DecidableLE α] (number bound : α) :
    let _ : Min α := minOfLe
    min (min number bound) bound = min number bound := by
  change (if (if _ then _ else _) ≤ _ then (if _ then _ else _) else _) = if _ then _ else _
  by_cases below : number ≤ bound <;> simp [below]

theorem kindBack_handedBack : object.handedBack.kindBack = object.handedBack.kind := by
  have track := object.leadingTrack_handedBack
  have known : object.handedBack.kind = object.kindBack := rfl
  unfold kindBack at known ⊢
  rw [known, track]
  cases object.kind with
  | item contents => rfl
  | container contents =>
    exact congrArg (fun updateId => Kind.container { contents with updateId })
      (max_max_self contents.updateId 0)

theorem resources_handedBack :
    (if object.handedBack.kind.isUrl && object.handedBack.resources.isEmpty then
      [object.handedBack.plainLink]
    else object.handedBack.resources) = object.handedBack.resources := by
  have isUrl : object.handedBack.kind.isUrl = object.kind.isUrl := object.isUrl_kindBack
  rw [isUrl]
  cases link : object.kind.isUrl with
  | false => rfl
  | true =>
    have present : object.handedBack.resources.isEmpty = false := by
      simp only [handedBack, link, Bool.true_and]
      split
      · rfl
      · next filled => exact Bool.eq_false_iff.mpr filled
    rw [present]
    rfl

/-- An object that is in order already comes back as it is, its metadata aside. -/
theorem handedBack_of_ordered (once : Object) (isVirtual : once.isVirtual = true)
    (refId : once.refId = noId)
    (size : min once.sizeOnDisk 9223372036854775807 = once.sizeOnDisk)
    (restricted : (once.restricted || once.kind.isUrl) = once.restricted)
    (resources : (if once.kind.isUrl && once.resources.isEmpty then [once.plainLink]
      else once.resources) = once.resources)
    (kind : once.kindBack = once.kind) :
    once.handedBack = { once with metadata := once.handedBack.metadata } := by
  simp only [handedBack, isVirtual, refId, size, restricted, resources, kind]

/-- What came back once is in order. -/
theorem ordered_handedBack :
    object.handedBack.handedBack =
      { object.handedBack with metadata := object.handedBack.handedBack.metadata } := by
  have isUrl : object.handedBack.kind.isUrl = object.kind.isUrl := object.isUrl_kindBack
  have restricted : (object.handedBack.restricted || object.handedBack.kind.isUrl) =
      object.handedBack.restricted := by
    rw [isUrl]
    simp [handedBack]
  exact handedBack_of_ordered object.handedBack rfl rfl
    (min_min_self object.sizeOnDisk 9223372036854775807) restricted object.resources_handedBack
    object.kindBack_handedBack

/-- All that a second pass does is to write the track of an item from its number. -/
theorem handedBack_handedBack :
    object.handedBack.handedBack =
      { object.handedBack with metadata := ObjectTable.shownMetadata object.handedBack } := by
  have ordered := object.ordered_handedBack
  rwa [metadata_handedBack_handedBack] at ordered

/-- What is shown of the metadata that are shown is the same. -/
theorem shownMetadata_shownMetadata :
    ObjectTable.shownMetadata { object with metadata := ObjectTable.shownMetadata object } =
      ObjectTable.shownMetadata object := by
  have sameItem :
      item? { object with metadata := ObjectTable.shownMetadata object } = object.item? := rfl
  unfold ObjectTable.shownMetadata at sameItem ⊢
  rw [sameItem]
  cases object.item? with
  | none => rfl
  | some contents =>
    by_cases positive : 0 < contents.trackNumber
    · apply Std.ExtTreeMap.ext_getElem?
      intro key
      by_cases track : MetadataKey.trackNumber = key <;>
        simp [positive, track, Std.ExtTreeMap.getElem?_insert]
    · simp [positive]

theorem eq_of_withMetadata {object other : Object} {metadata : TextMap}
    (same : other = { object with metadata }) (own : metadata = object.metadata) :
    other = object := by
  rw [same, own]

/-- From the second pass on nothing changes. -/
theorem handedBack_settles :
    object.handedBack.handedBack.handedBack = object.handedBack.handedBack := by
  have shown : ObjectTable.shownMetadata object.handedBack.handedBack =
      ObjectTable.shownMetadata object.handedBack := by
    rw [handedBack_handedBack, shownMetadata_shownMetadata]
  -- The third pass writes the track from the same number as the second.
  refine eq_of_withMetadata (handedBack_handedBack object.handedBack) ?_
  rw [shown, metadata_handedBack_handedBack]

/-- The entries that are shown of an object that came back: they stand there already, but
the track of an item is written from its number. -/
theorem getElem?_shownMetadata_handedBack (key : String) :
    (ObjectTable.shownMetadata object.handedBack)[key]? =
      match object.handedBack.item?, object.handedBack.metadata[key]? with
      | some contents, some text =>
        some (if key = MetadataKey.trackNumber then toString contents.trackNumber.toInt else text)
      | _, entry => entry := by
  rw [ObjectTable.shownMetadata, item?_handedBack]
  cases object.item? with
  | none => rfl
  | some contents =>
    dsimp only [Option.map_some]
    by_cases track : key = MetadataKey.trackNumber
    · subst track
      by_cases positive : 0 < object.leadingTrack
      · simp [positive, getElem?_handedBack_trackNumber]
      · simp [positive, getElem?_handedBack_trackNumber]
    · have unchanged : (if 0 < object.leadingTrack then
          object.handedBack.metadata.insert MetadataKey.trackNumber
            (toString object.leadingTrack.toInt)
          else object.handedBack.metadata)[key]? = object.handedBack.metadata[key]? := by
        split
        · simp [Std.ExtTreeMap.getElem?_insert, Ne.symm track]
        · rfl
      rw [unchanged]
      cases object.handedBack.metadata[key]? <;> simp [track]

end Object

end MediaImport.Media

namespace MediaImport.Exchange

open MediaImport.Media MediaImport.Script

/-! ## Passes -/

variable {σ : Type}

/-- Where a pass takes place: the character sets of the context, and the interpreter with
the state of its host. -/
structure Occasion (σ : Type) where
  conversions : Conversions
  interpreter : Interpreter
  state : σ

/-- Show an object in an import context, and read the table over the same object before
anyone has touched it. -/
def importOnce (host : Host σ) (occasion : Occasion σ) (object : Object) :
    Except Failure (Option Object) :=
  let shown := (ObjectTable.ofObject object).allocate occasion.interpreter.heap
  (Interpreter.read host { occasion.interpreter with heap := shown.1 } occasion.state
    ((Reader.ofConversions .layout occasion.conversions).object (some object) (some shown.2))).1

/-- One pass after another, each wherever it takes place, over what came back the last
time. -/
def importAgain (host : Host σ) : List (Occasion σ) → Object → Except Failure (Option Object)
  | [], object => .ok (some object)
  | occasion :: later, object =>
    (importOnce host occasion object).bind fun back =>
      back.elim (.ok none) (importAgain host later)

theorem importOnce_eq (host : Host σ) (occasion : Occasion σ) (object : Object) :
    importOnce host occasion object = .ok (some object.handedBack) := by
  have shows := (ObjectTable.ofObject object).shows_allocate occasion.interpreter.heap
  have read := Reader.read_untouched host occasion.interpreter occasion.state
    (.ofConversions .layout occasion.conversions) object
  dsimp only at read
  rw [Reader.ofConversions_layout, Reader.describedAs_handedBack shows] at read
  exact congrArg Prod.fst read

/-- Passes are never refused, and come to as many steps of `Object.handedBack`. -/
theorem importAgain_eq (host : Host σ) (occasions : List (Occasion σ)) (object : Object) :
    importAgain host occasions object =
      .ok (some (Object.handedBack^[occasions.length] object)) := by
  induction occasions generalizing object with
  | nil => rfl
  | cons occasion later ih =>
    simp only [importAgain, importOnce_eq]
    exact ih object.handedBack

/-- Importing an object again and again settles after two passes, and the second one
changes only how the track number of an item is written. -/
theorem importAgain_settles (host : Host σ) (object : Object) :
    ∃ once twice,
      (∀ occasion, importAgain host [occasion] object = .ok (some once)) ∧
      (∀ occasion, importAgain host [occasion] once = .ok (some twice)) ∧
      (∀ occasion, importAgain host [occasion] twice = .ok (some twice)) ∧
      (∀ first second later,
        importAgain host (first :: second :: later) object = .ok (some twice)) ∧
      twice = { once with metadata := twice.metadata } ∧
      ∀ key, twice.metadata[key]? =
        match once.item?, once.metadata[key]? with
        | some contents, some text =>
          some (if key = MetadataKey.trackNumber then toString contents.trackNumber.toInt
            else text)
        | _, entry => entry := by
  have settled := object.handedBack_settles
  refine ⟨object.handedBack, object.handedBack.handedBack, ?_, ?_, ?_, ?_, ?_, ?_⟩
  · exact fun occasion => importAgain_eq host [occasion] object
  · exact fun occasion => importAgain_eq host [occasion] object.handedBack
  · intro occasion
    rw [importAgain_eq]
    exact congrArg (fun back => Except.ok (some back)) settled
  · intro first second later
    rw [importAgain_eq]
    change Except.ok (some (Object.handedBack^[later.length] object.handedBack.handedBack)) = _
    rw [Function.iterate_fixed settled]
  · exact object.ordered_handedBack
  · intro key
    rw [Object.metadata_handedBack_handedBack]
    exact object.getElem?_shownMetadata_handedBack key

end MediaImport.Exchange
