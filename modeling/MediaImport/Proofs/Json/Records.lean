import Mathlib.Data.List.Forall2
import Mathlib.Data.List.Perm.Basic
import MediaImport.Proofs.Json.WrittenText

/-!
# Members of objects

A record does not depend on the order of its members, on members that it does not know, or on
what else has been left out.  So what a reader finds in an object is a table: for each name that
it asks for there is one member, or none.
-/

namespace MediaImport.Json

/-! ## Changing the members of an object -/

/-- An object without its members of some names. -/
def without (omitted : List String) : Json → Json
  | .object members => .object (members.filter fun member => member.1.all (!omitted.contains ·))
  | other => other

/-- An object with another value in the place of a member. -/
def withMember (json : Json) (name : String) (value : Json) : Json :=
  match json with
  | .object members => .object (members.map fun member =>
      if member.1 == some name then (member.1, value) else member)
  | other => other

/-- An object that has the members of a record and further ones, in any order. -/
def Mixes (record : Json) (extra : List (String × Json)) (mixed : Json) : Prop :=
  ∃ members others, record = .object members ∧ mixed = .object others ∧
    others.Perm (members ++ extra.map fun member => (some member.1, member.2))

/-- A value under a name that may be left out. -/
def kept (omitted : List String) (name : String) (value : Json) : Option Json :=
  if name ∈ omitted then none else some value

section Kept

variable {α : Type} {read : Json → Option α} {value : Json}

theorem optional?_kept (fallback : α) (omitted : List String) (name : String) :
    optional? read fallback (kept omitted name value) =
      if name ∈ omitted then some fallback else read value := by
  unfold kept
  split <;> rfl

/-- A field with a default is never missing. -/
theorem ite_some_some (given : Prop) [Decidable given] (fallback found : α) :
    (if given then some fallback else some found) = some (if given then fallback else found) :=
  (apply_ite some given fallback found).symm

theorem required?_kept (omitted : List String) (name : String) :
    required? read (kept omitted name value) = if name ∈ omitted then none else read value := by
  unfold kept
  split <;> rfl

end Kept

theorem mapM_eq_some_iff {α β : Type} {change : α → Option β} {values : List α}
    {images : List β} : values.mapM change = some images ↔
      List.Forall₂ (fun value image => change value = some image) values images := by
  induction values generalizing images with
  | nil => simp [eq_comm]
  | cons first rest ih =>
    simp only [List.mapM_cons, Option.pure_def, Option.bind_eq_bind, Option.bind_eq_some_iff,
      Option.some.injEq, List.forall₂_cons_left_iff, ih]
    constructor
    · rintro ⟨image, here, others, there, rfl⟩
      exact ⟨image, others, here, there, rfl⟩
    · rintro ⟨image, others, here, there, rfl⟩
      exact ⟨image, here, others, there, rfl⟩

/-- What a list is mapped to has whatever each image has. -/
theorem forall_mem_of_mapM {α β : Type} {change : α → Option β} {Holds : β → Prop}
    {values : List α} {images : List β} (mapped : values.mapM change = some images)
    (holds : ∀ value image, change value = some image → Holds image) :
    ∀ image ∈ images, Holds image := by
  have pairs := mapM_eq_some_iff.mp mapped
  clear mapped
  induction pairs with
  | nil => simp
  | cons here _ ih => exact List.forall_mem_cons.mpr ⟨holds _ _ here, ih⟩

/-! ## Tables -/

/-- What an object has under each of some names: one member, or none. -/
def Shows (json : Json) (names : List String) (table : String → Option Json) : Prop :=
  ∃ members, json = .object members ∧ (∀ member ∈ members, member.1.isSome = true) ∧
    ∀ name ∈ names, (members.filter fun member => member.1 == some name) =
      (table name).toList.map fun value => (some name, value)

theorem shows_ofMembers {fields : List (String × Json)} (apart : (fields.map Prod.fst).Nodup)
    (names : List String) :
    Shows (ofMembers fields) names fun name => List.lookup name fields := by
  refine ⟨_, rfl, ?_, fun name _ => ?_⟩
  · simp only [List.forall_mem_map]
    exact fun _ _ => rfl
  induction fields with
  | nil => rfl
  | cons first fields ih =>
    obtain ⟨key, value⟩ := first
    rw [List.map_cons, List.nodup_cons] at apart
    by_cases same : key = name
    · subst same
      have others : (fields.map fun member => (some member.1, member.2)).filter
          (fun member => member.1 == some key) = [] := by
        simp only [List.filter_eq_nil_iff, List.forall_mem_map, beq_iff_eq, Option.some.injEq]
        exact fun member among same => apart.1 (List.mem_map.mpr ⟨member, among, same⟩)
      simp [others]
    · have behind := ih apart.2
      have differs : (name == key) = false := beq_eq_false_iff_ne.mpr (Ne.symm same)
      simpa [List.lookup_cons, same, differs] using behind

variable {json : Json} {names : List String} {table : String → Option Json}

theorem Shows.without (shows : Shows json names table) (omitted : List String) :
    Shows (json.without omitted) names fun name => (table name).bind (kept omitted name) := by
  obtain ⟨members, rfl, named, found⟩ := shows
  refine ⟨_, rfl, fun member among => named member (List.mem_of_mem_filter among), ?_⟩
  intro name asked
  have swapped : (members.filter fun member => member.1.all (!omitted.contains ·)).filter
        (fun member => member.1 == some name) =
      ((table name).toList.map fun value => (some name, value)).filter
        fun member => member.1.all (!omitted.contains ·) := by
    rw [← found name asked, List.filter_filter, List.filter_filter]
    simp only [Bool.and_comm]
  simp only [swapped]
  cases table name with
  | none => rfl
  | some value => by_cases left : name ∈ omitted <;> simp [kept, left]

theorem Shows.withMember (shows : Shows json names table) (replaced : String) (value : Json) :
    Shows (json.withMember replaced value) names fun name =>
      if name = replaced then (table name).map fun _ => value else table name := by
  obtain ⟨members, rfl, named, found⟩ := shows
  refine ⟨_, rfl, ?_, ?_⟩
  · simp only [List.forall_mem_map]
    intro member among
    split <;> exact named member among
  · intro name asked
    have commutes : (members.map fun member =>
          if member.1 == some replaced then (member.1, value) else member).filter
            (fun member => member.1 == some name) =
        (members.filter fun member => member.1 == some name).map fun member =>
          if member.1 == some replaced then (member.1, value) else member := by
      rw [List.filter_map]
      congr 2
      funext member
      simp only [Function.comp]
      split <;> rfl
    rw [commutes, found name asked]
    by_cases same : name = replaced
    · subst same
      cases hold : table name <;> simp [hold]
    · simp [same]

theorem Shows.mixes (shows : Shows json names table) {extra : List (String × Json)}
    (unknown : ∀ member ∈ extra, member.1 ∉ names) {mixed : Json} (mixes : Mixes json extra mixed) :
    Shows mixed names table := by
  obtain ⟨members, rfl, named, found⟩ := shows
  obtain ⟨same, others, fixed, rfl, shuffled⟩ := mixes
  cases fixed
  refine ⟨others, rfl, fun member among => ?_, fun name asked => ?_⟩
  · rcases List.mem_append.mp (shuffled.mem_iff.mp among) with there | added
    · exact named member there
    · obtain ⟨_, -, rfl⟩ := List.mem_map.mp added
      rfl
  · have none : (extra.map fun member => (some member.1, member.2)).filter
        (fun member => member.1 == some name) = [] := by
      simp only [List.filter_eq_nil_iff, List.forall_mem_map, beq_iff_eq, Option.some.injEq]
      rintro member among rfl
      exact unknown member among asked
    -- No more than one member has the name, and a list of one has no other order.
    have sorted := shuffled.filter fun member => member.1 == some name
    rw [List.filter_append, none, List.append_nil, found name asked] at sorted
    cases hold : table name with
    | none =>
      rw [hold] at sorted
      simpa using sorted.eq_nil
    | some value =>
      rw [hold] at sorted
      simpa using sorted.eq_singleton

/-- The fields that are found in an object. -/
theorem Shows.fields? (shows : Shows json names table) :
    json.fields? names = some (names.map table) := by
  obtain ⟨members, rfl, named, found⟩ := shows
  rw [Json.fields?, fieldsOfMembers?, if_pos (List.all_eq_true.mpr named), mapM_eq_some_iff,
    List.forall₂_map_right_iff, List.forall₂_same]
  intro name asked
  rw [found name asked]
  cases table name <;> rfl

/-- A tag that is found leaves the other members. -/
theorem Shows.untag? {tag : String} (shows : Shows json (tag :: names) table)
    (apart : tag ∉ names) (value : Json) (tagged : table tag = some value) :
    ∃ rest, json.untag? tag = some (value, rest) ∧ Shows rest names table := by
  obtain ⟨members, rfl, named, found⟩ := shows
  have here := found tag List.mem_cons_self
  rw [tagged] at here
  refine ⟨.object (members.filter fun member => member.1 != some tag), ?_, ?_⟩
  · simp [Json.untag?, here]
  · refine ⟨_, rfl, fun member among => named member (List.mem_of_mem_filter among), ?_⟩
    intro name asked
    rw [← found name (List.mem_cons_of_mem tag asked), List.filter_filter]
    refine List.filter_congr fun member _ => ?_
    have differs : name ≠ tag := fun same => apart (same ▸ asked)
    by_cases same : member.1 = some name <;> simp [same, differs]

theorem Shows.untag?_of_none {tag : String} (shows : Shows json (tag :: names) table)
    (untagged : table tag = none) : json.untag? tag = none := by
  obtain ⟨members, rfl, named, found⟩ := shows
  have here := found tag List.mem_cons_self
  rw [untagged] at here
  simp [Json.untag?, here]

/-! ## Members that have something in common -/

/-- An object whose members have names, and values of which something holds. -/
def EveryMember (Holds : Json → Prop) (json : Json) : Prop :=
  ∃ members, json = .object members ∧
    ∀ member ∈ members, member.1.isSome = true ∧ Holds member.2

section EveryMember

variable {Holds : Json → Prop}

theorem everyMember_ofMembers {fields : List (String × Json)}
    (all : ∀ field ∈ fields, Holds field.2) : EveryMember Holds (ofMembers fields) :=
  ⟨_, rfl, List.forall_mem_map.mpr fun field among => ⟨rfl, all field among⟩⟩

theorem EveryMember.without (every : EveryMember Holds json) (omitted : List String) :
    EveryMember Holds (json.without omitted) := by
  obtain ⟨members, rfl, all⟩ := every
  exact ⟨_, rfl, fun member among => all member (List.mem_of_mem_filter among)⟩

theorem EveryMember.withMember (every : EveryMember Holds json) (replaced : String) {value : Json}
    (holds : Holds value) : EveryMember Holds (json.withMember replaced value) := by
  obtain ⟨members, rfl, all⟩ := every
  refine ⟨_, rfl, List.forall_mem_map.mpr fun member among => ?_⟩
  split
  · exact ⟨(all member among).1, holds⟩
  · exact all member among

theorem EveryMember.mixes (every : EveryMember Holds json) {extra : List (String × Json)}
    (further : ∀ member ∈ extra, Holds member.2) {mixed : Json} (mixes : Mixes json extra mixed) :
    EveryMember Holds mixed := by
  obtain ⟨members, rfl, all⟩ := every
  obtain ⟨same, others, fixed, rfl, shuffled⟩ := mixes
  cases fixed
  refine ⟨others, rfl, fun member among => ?_⟩
  rcases List.mem_append.mp (shuffled.mem_iff.mp among) with there | added
  · exact all member there
  · obtain ⟨source, listed, rfl⟩ := List.mem_map.mp added
    exact ⟨rfl, further source listed⟩

end EveryMember

theorem areWritable_iff {items : List Json} :
    areWritable items = true ↔ ∀ item ∈ items, item.isWritable = true := by
  induction items with
  | nil => simp [areWritable]
  | cons first rest ih => simp [areWritable, ih]

theorem isWritable_array {items : List Json} (all : ∀ item ∈ items, item.isWritable = true) :
    (Json.array items).isWritable = true := by
  rw [Json.isWritable, areWritable_iff]
  exact all

theorem EveryMember.isWritable (every : EveryMember (Json.isWritable · = true) json) :
    json.isWritable = true := by
  obtain ⟨members, rfl, all⟩ := every
  rw [Json.isWritable]
  induction members with
  | nil => rfl
  | cons first rest ih =>
    obtain ⟨here, there⟩ := List.forall_mem_cons.mp all
    simp [membersAreWritable, here, ih there]

/-- A tree that can be read as a whole, with no more than some levels of containers. -/
def Shallow (levels : Nat) (json : Json) : Prop :=
  json.isReadable = true ∧ json.depth ≤ levels

theorem Shallow.mono {levels more : Nat} (shallow : Shallow levels json) (below : levels ≤ more) :
    Shallow more json :=
  ⟨shallow.1, shallow.2.trans below⟩

theorem EveryMember.shallow {levels : Nat} (every : EveryMember (Shallow levels) json) :
    Shallow (levels + 1) json := by
  obtain ⟨members, rfl, all⟩ := every
  rw [Shallow, isReadable, depth, Nat.add_le_add_iff_right]
  induction members with
  | nil => exact ⟨rfl, Nat.zero_le _⟩
  | cons first rest ih =>
    obtain ⟨⟨named, readable, low⟩, there⟩ := List.forall_mem_cons.mp all
    obtain ⟨others, below⟩ := ih there
    exact ⟨by simp [membersAreReadable, named, readable, others], Nat.max_le.mpr ⟨low, below⟩⟩

/-- A part that is not deep in itself can be read as a whole. -/
theorem Shallow.isBuffered {levels outer : Nat} (shallow : Shallow levels json)
    (room : outer + levels < depthLimit) : json.isBuffered outer = true := by
  have low := shallow.2
  simp only [Json.isBuffered, shallow.1, Bool.and_true, decide_eq_true_eq]
  omega

end MediaImport.Json
