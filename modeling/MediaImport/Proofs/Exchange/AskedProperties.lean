import MediaImport.Exchange.ObjectReading

/-!
# Which properties a reading asks for

Reading an object asks for properties of two tables at most: the table itself, and
the table of metadata that it names.  It asks in a fixed order and for none of them
twice, and no name of a metadata entry is the name of a property of objects.

`Reading.Asks` says both at once, for whatever answers are possible, so that it can
be used where the answers are known as well as where a metatable makes them up.
-/

namespace MediaImport.Exchange

open MediaImport.Media MediaImport.Script

namespace Reading

/-- Whatever possible answers it gets, a reading asks some tables only, in the order of
a list of names. -/
def Asks {α : Type} (possible : Nat → String → Value → Prop) (tables : Nat → Prop) :
    Reading α → List String → Prop
  | done _, _ => True
  | fail _, _ => True
  | get table key next, names =>
    tables table ∧ ∃ before after, names = before ++ key :: after ∧
      ∀ value, possible table key value → (next value).Asks possible tables after

variable {α β : Type} {possible : Nat → String → Value → Prop} {tables : Nat → Prop}

theorem Asks.skip {reading : Reading α} {names : List String}
    (asks : reading.Asks possible tables names) (before : List String) :
    reading.Asks possible tables (before ++ names) := by
  cases reading with
  | done value => trivial
  | fail failure => trivial
  | get table key next =>
    obtain ⟨known, first, after, split, rest⟩ := asks
    exact ⟨known, before ++ first, after, by rw [split, List.append_assoc], rest⟩

theorem Asks.extend {reading : Reading α} {names : List String}
    (asks : reading.Asks possible tables names) (after : List String) :
    reading.Asks possible tables (names ++ after) := by
  induction reading generalizing names with
  | done value => trivial
  | fail failure => trivial
  | get table key next ih =>
    obtain ⟨known, before, later, split, rest⟩ := asks
    refine ⟨known, before, later ++ after, ?_, ?_⟩
    · rw [split, List.append_assoc, List.cons_append]
    · intro value answer
      exact ih value (rest value answer)

theorem Asks.bind {first : Reading α} {rest : α → Reading β} {names more : List String}
    (asks : first.Asks possible tables names)
    (goesOn : ∀ value, (rest value).Asks possible tables more) :
    (first >>= rest).Asks possible tables (names ++ more) := by
  change (first.bind rest).Asks possible tables (names ++ more)
  induction first generalizing names with
  | done value => exact (goesOn value).skip names
  | fail failure => trivial
  | get table key next ih =>
    obtain ⟨known, before, after, split, later⟩ := asks
    refine ⟨known, before, after ++ more, ?_, ?_⟩
    · rw [split, List.append_assoc, List.cons_append]
    · intro value answer
      exact ih value (later value answer)

/-- What follows a reading may ask for nothing more. -/
theorem Asks.bind_silent {first : Reading α} {rest : α → Reading β} {names : List String}
    (asks : first.Asks possible tables names)
    (silent : ∀ value, (rest value).Asks possible tables []) :
    (first >>= rest).Asks possible tables names := by
  have both := asks.bind silent
  rwa [List.append_nil] at both

theorem Asks.map {reading : Reading α} {names : List String} (change : α → β)
    (asks : reading.Asks possible tables names) :
    (change <$> reading).Asks possible tables names :=
  asks.bind_silent fun _ => trivial

theorem asks_property_bind {table : Nat} {key : String} {rest : Value → Reading β}
    {names : List String} (known : tables table)
    (goesOn : ∀ value, possible table key value → (rest value).Asks possible tables names) :
    (property (some table) key >>= rest).Asks possible tables (key :: names) :=
  ⟨known, [], names, rfl, goesOn⟩

theorem asks_property {table : Nat} (key : String) (known : tables table) :
    (property (some table) key).Asks possible tables [key] :=
  ⟨known, [], [], rfl, fun _ _ => trivial⟩

end Reading

namespace Reader

/-- The names of the entries that metadata may have. -/
def metadataNames : List String :=
  MetadataKey.all.map Symbol.text

/-- The names of the properties that are read for every kind of object. -/
def commonNames : List String :=
  ["id", "refID", "parentID", "title", "upnpclass", "restricted", "mtime", "sizeOnDisk"] ++
    ("meta" :: metadataNames) ++ ["location"]

/-- The names of the properties that are read for items. -/
def itemNames : List String :=
  ["mimetype", "serviceID", "description", "playlistOrder", "action", "state", "protocol"]

/-- The names of the properties that are read for containers. -/
def containerNames : List String :=
  ["updateID", "searchable"]

/-- The names of all properties that are read, in the order in which they are. -/
def askedNames : List String :=
  ["objectType"] ++ commonNames ++ itemNames ++ containerNames

/-- No property is read twice. -/
theorem nodup_askedNames : askedNames.Nodup := by decide

open Reading

variable (reader : Reader) {possible : Nat → String → Value → Prop} {tables : Nat → Prop}
  {table : Nat} (known : tables table)
include known

theorem asks_bytes (key : String) : (bytes (some table) key).Asks possible tables [key] :=
  (asks_property key known).map _

theorem asks_int32 (key : String) (fallback : Int32) :
    (int32 (some table) key fallback).Asks possible tables [key] :=
  (asks_property key known).map _

theorem asks_flag (key : String) :
    (Value.propertyFlag? <$> property (some table) key).Asks possible tables [key] :=
  (asks_property key known).map _

theorem asks_natural? (key : String) :
    (natural? (some table) key).Asks possible tables [key] :=
  ((asks_property key known).map _).bind_silent fun _ => trivial

theorem asks_looseText? (key : String) :
    (looseText? (some table) key).Asks possible tables [key] :=
  ((asks_property key known).map _).bind_silent fun _ => trivial

omit known in
theorem asks_decode (contents : Bytes) : (reader.decode contents).Asks possible tables [] := by
  unfold decode
  split <;> trivial

theorem asks_text? (key : String) : (reader.text? (some table) key).Asks possible tables [key] := by
  refine (asks_bytes known key).bind_silent ?_
  intro contents
  split
  · trivial
  · exact (reader.asks_decode contents).map some

theorem asks_metadataFrom (keys : List Symbol) (metadata : TextMap) :
    (reader.metadataFrom (some table) keys metadata).Asks possible tables
      (keys.map Symbol.text) := by
  induction keys generalizing metadata with
  | nil => trivial
  | cons key keys ih =>
    refine (asks_bytes known key.text).bind ?_
    intro contents
    split
    · exact ih metadata
    · split
      · exact ih _
      · refine (reader.asks_decode contents).bind ?_
        intro text
        exact ih _

theorem asks_metadata
    (nested : ∀ id, possible table "meta" (.table id) → tables id) :
    (reader.metadata (some table)).Asks possible tables ("meta" :: metadataNames) := by
  refine asks_property_bind known ?_
  intro value answer
  cases value with
  | table id => exact reader.asks_metadataFrom (nested id answer) _ _
  | _ => trivial

theorem asks_common (nested : ∀ id, possible table "meta" (.table id) → tables id)
    (previous : Option Object) (created : Object) :
    (reader.common previous (some table) created).Asks possible tables commonNames := by
  have order : commonNames = ["id"] ++ (["refID"] ++ (["parentID"] ++ (["title"] ++
      (["upnpclass"] ++ (["restricted"] ++ (["mtime"] ++ (["sizeOnDisk"] ++
        (("meta" :: metadataNames) ++ (["location"] ++ []))))))))) := rfl
  rw [order]
  refine (asks_int32 known "id" _).bind fun id => ?_
  refine (asks_int32 known "refID" _).bind fun refId => ?_
  refine (asks_int32 known "parentID" _).bind fun parentId => ?_
  refine (reader.asks_text? known "title").bind fun title => ?_
  refine (reader.asks_text? known "upnpclass").bind fun upnpClass => ?_
  refine (asks_flag known "restricted").bind fun restricted => ?_
  refine (asks_natural? known "mtime").bind fun mtime => ?_
  refine (asks_natural? known "sizeOnDisk").bind fun size => ?_
  refine (reader.asks_metadata known nested).bind fun metadata => ?_
  refine (asks_bytes known "location").bind fun location => ?_
  trivial

theorem asks_variant (previous : Option Object) (created : Variant) :
    (variant previous (some table) created).Asks possible tables ["action", "state"] := by
  cases created with
  | active command =>
    have order : ["action", "state"] = ["action"] ++ (["state"] ++ []) := rfl
    rw [order]
    refine (asks_looseText? known "action").bind fun action => ?_
    refine (asks_looseText? known "state").bind fun state => ?_
    trivial
  | _ => trivial

theorem asks_link (mimeType : String) (object : Object) :
    (reader.link (some table) mimeType object).Asks possible tables ["protocol"] :=
  (reader.asks_text? known "protocol").bind_silent fun _ => trivial

theorem asks_item (previous : Option Object) (contents : Item) (object : Object) :
    (reader.item previous (some table) contents object).Asks possible tables itemNames := by
  have order : itemNames = ["mimetype"] ++ (["serviceID"] ++ (["description"] ++
      (["playlistOrder"] ++ (["action", "state"] ++ (["protocol"]))))) := rfl
  rw [order]
  refine (reader.asks_text? known "mimetype").bind fun mimeType => ?_
  refine (reader.asks_text? known "serviceID").bind fun serviceId => ?_
  refine (reader.asks_text? known "description").bind fun description => ?_
  dsimp only
  split
  · refine (asks_int32 known "playlistOrder" 0).bind fun number => ?_
    refine (asks_variant known previous contents.variant).bind fun itemVariant => ?_
    split
    · exact reader.asks_link known _ _
    · trivial
  · refine Reading.Asks.skip ?_ ["playlistOrder"]
    refine (asks_variant known previous contents.variant).bind fun itemVariant => ?_
    split
    · exact reader.asks_link known _ _
    · trivial

theorem asks_container (contents : Container) (object : Object) :
    (container (some table) contents object).Asks possible tables containerNames := by
  have order : containerNames = ["updateID"] ++ (["searchable"] ++ []) := rfl
  rw [order]
  refine (asks_int32 known "updateID" _).bind fun updateId => ?_
  refine (asks_flag known "searchable").bind fun searchable => ?_
  trivial

/-- Reading an object asks for the properties of the table itself and of its table of
metadata, in a fixed order. -/
theorem asks_object (nested : ∀ id, possible table "meta" (.table id) → tables id)
    (previous : Option Object) :
    (reader.object previous (some table)).Asks possible tables askedNames := by
  have order : askedNames = ["objectType"] ++ (commonNames ++ (itemNames ++ containerNames)) := rfl
  rw [order]
  refine (asks_int32 known "objectType" _).bind fun requested => ?_
  split
  · trivial
  · split
    · trivial
    · refine (reader.asks_common known nested previous _).bind fun read => ?_
      split
      · next contents isItem =>
          exact ((reader.asks_item known previous contents read).extend containerNames).map some
      · next contents isContainer =>
          exact ((asks_container known contents read).skip itemNames).map some

end Reader

end MediaImport.Exchange
